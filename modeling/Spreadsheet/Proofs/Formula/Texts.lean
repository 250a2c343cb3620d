import Spreadsheet.Proofs.Formula.Complete
import Spreadsheet.Proofs.Formula.Spelling

/-!
# Proofs/Formula/Texts — which texts are formulas, and of which trees

A text is a formula exactly when all of it is tokens and the tokens derive from the grammar
(`parseFormula_eq_ok_iff`).  In the other direction every tree is written out with parentheses
around each operation: the result is a formula again, and it is read as the tree it was made from
(`exists_parseFormula`).  What a tree must satisfy is what every parsed tree does: markers stand
only in front of all else, and numbers and references are as the scanner reads them.
-/

namespace Spreadsheet

/-! ## Texts and tokens -/

theorem readLexemes_eq_ok_iff : ∀ {lexemes : List Lexeme} {state next : ParseState},
    readLexemes state lexemes = .ok next ↔ state.read (lexemes.map Lexeme.token) = .ok next
  | [], _, _ => by simp [readLexemes, ParseState.read]
  | lexeme :: lexemes, state, next => by
      rw [readLexemes, stepLexeme, List.map_cons, ParseState.read]
      cases state.step lexeme.token with
      | ok middle => exact readLexemes_eq_ok_iff
      | error cause => simp

theorem parse_eq_ok_iff {cs : List Char} {e : Expr} : parse cs = .ok e ↔
    (∃ position, (scan cs).ending = .finished position)
      ∧ ParseState.recognize (scan cs).tokens = .ok e := by
  constructor
  · intro h
    obtain ⟨state, hread, hfinish, hending⟩ := parse_ok h
    exact ⟨hending, ParseState.recognize_eq_ok_iff.mpr
      ⟨state, readLexemes_eq_ok_iff.mp hread, hfinish⟩⟩
  · rintro ⟨⟨position, hending⟩, h⟩
    obtain ⟨state, hread, hfinish⟩ := ParseState.recognize_eq_ok_iff.mp h
    have hread' : readLexemes .initial (scan cs).lexemes = .ok state :=
      readLexemes_eq_ok_iff.mpr hread
    simp only [parse, parseScan, hread', hending, hfinish]

/-- **A text is a formula when all of it is tokens, and they derive from the grammar.** -/
theorem parseFormula_eq_ok_iff {text : String} {e : Expr} : parseFormula text = .ok e ↔
    (∃ position, (scan text.toList).ending = .finished position)
      ∧ Derives .formula (scan text.toList).tokens e := by
  rw [← ParseState.recognize_eq_ok_iff_derives, ← parse_eq_ok_iff]
  refine ⟨parseFormula_ok, fun h => ?_⟩
  rw [parseFormula, h]

/-- A text is a formula when it is cut into tokens that derive from the grammar. -/
theorem parseFormula_eq_ok_iff_cuts {text : String} {e : Expr} : parseFormula text = .ok e ↔
    ∃ ts, Cuts text.toList [] ts ∧ Derives .formula ts e := by
  rw [parseFormula_eq_ok_iff]
  constructor
  · rintro ⟨hending, he⟩
    exact ⟨_, cuts_iff.mpr ⟨hending, rfl⟩, he⟩
  · rintro ⟨ts, hcuts, he⟩
    obtain ⟨hending, rfl⟩ := cuts_iff.mp hcuts
    exact ⟨hending, he⟩

namespace Expr

/-! ## Trees that can be written -/

/-- Whether no marker stands in a tree. -/
def IsUnmarked : Expr → Prop
  | number _ | reference _ => True
  | unary _ operand => operand.IsUnmarked
  | binary _ left right => left.IsUnmarked ∧ right.IsUnmarked
  | call _ argument => argument.IsUnmarked
  | formula _ => False

/-- Whether markers stand only in front of the whole tree, and its numbers and references are
spelled as the scanner reads them. -/
def IsWritable (e : Expr) : Prop :=
  e.stripMarkers.IsUnmarked ∧ ∀ token ∈ e.leaves, token.IsSpellable

/-- A marker stands in front of a formula or nowhere. -/
theorem isUnmarked_of_derives {category : Category} {ts : List Token} {e : Expr}
    (h : Derives category ts e) : e.stripMarkers.IsUnmarked
      ∧ (category ≠ .formula → e.IsUnmarked) := by
  induction h with
  | marked _ ih => exact ⟨ih.1, fun hcategory => absurd rfl hcategory⟩
  | unmarked _ ih => exact ⟨ih.1, fun hcategory => absurd rfl hcategory⟩
  | @operand tier _ _ _ ih =>
    exact ⟨ih.1, fun _ => ih.2 (by cases tier <;> simp [Tier.operand])⟩
  | @operation tier _ _ _ _ _ _ _ _ _ ihleft ihright =>
    have hboth := And.intro (ihleft.2 (by simp)) (ihright.2 (by cases tier <;> simp [Tier.operand]))
    exact ⟨hboth, fun _ => hboth⟩
  | base _ ih => exact ⟨ih.1, fun _ => ih.2 (by simp)⟩
  | power _ _ ihleft ihright =>
    have hboth := And.intro (ihleft.2 (by simp)) (ihright.2 (by simp))
    exact ⟨hboth, fun _ => hboth⟩
  | sign s _ ih => exact ⟨ih.2 (by simp), fun _ => ih.2 (by simp)⟩
  | unsigned _ ih => exact ⟨ih.1, fun _ => ih.2 (by simp)⟩
  | number text => exact ⟨trivial, fun _ => trivial⟩
  | reference name => exact ⟨trivial, fun _ => trivial⟩
  | call f _ ih => exact ⟨ih.2 (by simp), fun _ => ih.2 (by simp)⟩
  | group _ ih => exact ⟨ih.1, fun _ => ih.2 (by simp)⟩

/-- The leaves of a formula are spelled as the scanner reads them. -/
theorem isSpellable_of_mem_leaves {text : String} {e : Expr} (h : parseFormula text = .ok e)
    {token : Token} (htoken : token ∈ e.leaves) : token.IsSpellable := by
  rw [leaves_of_parse (parseFormula_ok h), List.mem_filter] at htoken
  have hshape := forall_mem_tokens (P := fun token => (∀ name, token ≠ .identifier name) →
    token.IsSpellable) 0 text.toList fun _ hread => hread.isSpellable
  refine hshape token htoken.1 ?_
  rintro name rfl
  simp [Token.isLeaf] at htoken

theorem isWritable_of_parse {text : String} {e : Expr} (h : parseFormula text = .ok e) :
    e.IsWritable :=
  ⟨(isUnmarked_of_derives (parseFormula_eq_ok_iff.mp h).2).1, fun _ =>
    isSpellable_of_mem_leaves h⟩

end Expr

/-! ## Writing a tree -/

/-- The token of an operator. -/
def BinaryOp.token : BinaryOp → Token
  | equal => .equal
  | less => .less
  | greater => .greater
  | add => .plus
  | subtract => .minus
  | multiply => .times
  | divide => .divide
  | power => .power

namespace Expr

/-- The tokens of a tree, with parentheses around every operation. -/
def enclosed : Expr → List Token
  | number text => [.number text]
  | reference name => [.reference name]
  | unary s operand => .leftParen :: (s.token :: operand.enclosed ++ [.rightParen])
  | binary op left right =>
      .leftParen :: (left.enclosed ++ op.token :: right.enclosed ++ [.rightParen])
  | call f argument => .function f :: .leftParen :: (argument.enclosed ++ [.rightParen])
  | formula inner => inner.enclosed

/-- The tokens of a tree behind its markers. -/
def written : Expr → List Token
  | formula inner => .equal :: inner.written
  | e => e.enclosed

/-- **A tree without markers derives from its enclosed tokens.** -/
theorem derives_enclosed : ∀ {e : Expr}, e.IsUnmarked → Derives .primary e.enclosed e
  | number text, _ => .number text
  | reference name, _ => .reference name
  | unary s operand, h =>
      .group (Derives.comparison (.sign s (.unsigned (derives_enclosed (e := operand) h))))
  | binary op left right, h => by
      have hleft : Derives (.ofLevel 4) left.enclosed left := .unsigned (derives_enclosed h.1)
      have hright : Derives (.ofLevel 4) right.enclosed right := .unsigned (derives_enclosed h.2)
      have htoken : BinaryOp.ofToken? op.token = some op := by cases op <;> rfl
      have hbinary := Derives.binary htoken (hleft.ofLevel_of_le (by cases op <;> decide))
        (hright.ofLevel_of_le (by cases op <;> decide))
      exact .group (hbinary.ofLevel_of_le (Nat.zero_le _))
  | call f argument, h =>
      .call f (Derives.comparison (.unsigned (derives_enclosed (e := argument) h)))
  | formula _, h => h.elim

theorem derives_written : ∀ {e : Expr}, e.stripMarkers.IsUnmarked → Derives .formula e.written e
  | formula inner, h => .marked (derives_written (e := inner) h)
  | number _, h | reference _, h | unary _ _, h | binary _ _ _, h | call _ _, h =>
      .unmarked (Derives.comparison (.unsigned (derives_enclosed h)))

theorem isSpellable_sign (s : Sign) : s.token.IsSpellable := by cases s <;> trivial

theorem isSpellable_operator (op : BinaryOp) : op.token.IsSpellable := by cases op <;> trivial

/-- Parentheses, signs and operators can always be written. -/
theorem isSpellable_of_mem_enclosed : ∀ {e : Expr}, (∀ token ∈ e.leaves, token.IsSpellable) →
    ∀ token ∈ e.enclosed, token.IsSpellable
  | number text, h => h
  | reference name, h => h
  | unary s operand, h => by
      have ih := isSpellable_of_mem_enclosed (e := operand) h
      simp only [enclosed, List.mem_cons, List.mem_append, List.not_mem_nil, or_false]
      rintro token (rfl | (rfl | htoken) | rfl)
      · trivial
      · exact isSpellable_sign s
      · exact ih token htoken
      · trivial
  | binary op left right, h => by
      have ihleft := isSpellable_of_mem_enclosed (e := left) fun token htoken =>
        h token (List.mem_append_left _ htoken)
      have ihright := isSpellable_of_mem_enclosed (e := right) fun token htoken =>
        h token (List.mem_append_right _ htoken)
      simp only [enclosed, List.mem_cons, List.mem_append, List.not_mem_nil, or_false]
      rintro token (rfl | (htoken | rfl | htoken) | rfl)
      · trivial
      · exact ihleft token htoken
      · exact isSpellable_operator op
      · exact ihright token htoken
      · trivial
  | call f argument, h => by
      have ih := isSpellable_of_mem_enclosed (e := argument) h
      simp only [enclosed, List.mem_cons, List.mem_append, List.not_mem_nil, or_false]
      rintro token (rfl | rfl | htoken | rfl)
      · trivial
      · trivial
      · exact ih token htoken
      · trivial
  | formula inner, h => isSpellable_of_mem_enclosed (e := inner) h

theorem isSpellable_of_mem_written : ∀ {e : Expr}, (∀ token ∈ e.leaves, token.IsSpellable) →
    ∀ token ∈ e.written, token.IsSpellable
  | formula inner, h => fun token htoken => by
      rcases List.mem_cons.mp htoken with rfl | htoken
      · trivial
      · exact isSpellable_of_mem_written (e := inner) h token htoken
  | number _, h | reference _, h | unary _ _, h | binary _ _ _, h | call _ _, h =>
      isSpellable_of_mem_enclosed h

/-- **Every tree that can be written is the tree of a text.** -/
theorem exists_parseFormula {e : Expr} (h : e.IsWritable) : ∃ text, parseFormula text = .ok e := by
  obtain ⟨hending, htokens⟩ := cuts_iff.mp (cuts_spell (isSpellable_of_mem_written h.2))
  refine ⟨String.ofList (spell e.written), parseFormula_eq_ok_iff.mpr ?_⟩
  rw [String.toList_ofList, htokens]
  exact ⟨hending, derives_written h.1⟩

end Expr

/-- **The parser accepts exactly the grammar, and builds exactly its trees.**  A text is read as a
tree when all of it is tokens from which the tree derives; no tokens have two trees; and the trees
of texts are those with markers in front only and with numbers and references as they are
spelled. -/
theorem parseFormula_exact :
    (∀ text e, parseFormula text = .ok e ↔
        (∃ position, (scan text.toList).ending = .finished position)
          ∧ Derives .formula (scan text.toList).tokens e)
      ∧ (∀ ts e e', Derives .formula ts e → Derives .formula ts e' → e = e')
      ∧ ∀ e, (∃ text, parseFormula text = .ok e) ↔ e.IsWritable :=
  ⟨fun _ _ => parseFormula_eq_ok_iff, fun _ _ _ => Derives.unique, fun _ =>
    ⟨fun ⟨_, h⟩ => Expr.isWritable_of_parse h, Expr.exists_parseFormula⟩⟩

/-- A sign binds tighter than the power behind it, powers group to the right, and an equals sign is
a marker only in front. -/
theorem parseFormula_exact_marked_power :
    let e : Expr := .formula (.binary .equal
      (.binary .power (.unary .minus (.number "2")) (.binary .power (.reference "A1") (.number "3")))
      (.number "4"))
    parseFormula "= -2 ^ a1 ^ 3 = 4" = .ok e
      ∧ Derives .formula (scan "= -2 ^ a1 ^ 3 = 4".toList).tokens e ∧ e.IsWritable := by
  intro e
  have h : parseFormula "= -2 ^ a1 ^ 3 = 4" = .ok e := by decide +kernel
  exact ⟨h, ((parseFormula_exact.1 _ e).mp h).2, (parseFormula_exact.2.2 e).mp ⟨_, h⟩⟩

end Spreadsheet
