import Spreadsheet.Proofs.Formula.Read

/-!
# Proofs/Formula/Cuts — where a text is cut into tokens

A part of a text is cut into the same tokens before whatever follows, as long as that continues no
token which was complete before (`Cuts.gentler`), so the parts of a text can be scanned one by one
(`Cuts.append`).  A text can be parted at any place that lies in no token (`cuts_of_boundary`), and
around each token (`cuts_of_lexeme`).
-/

namespace Spreadsheet

open Text

variable {cs before after after' span : List Char} {token : Token} {ts us : List Token}
  {position : Nat}

/-! ## Cutting a part of a text -/

/-- **The tokens into which the first part of a text is cut**, with the second part behind it. -/
inductive Cuts : List Char → List Char → List Token → Prop
  | nil {after : List Char} : Cuts [] after []
  | blank {c : Char} {cs after : List Char} {ts : List Token} : isBlank c = true →
      Cuts cs after ts → Cuts (c :: cs) after ts
  | token {token : Token} {span cs after : List Char} {ts : List Token} :
      Read token span (cs ++ after) → Cuts cs after ts → Cuts (span ++ cs) after (token :: ts)

theorem Cuts.append (h : Cuts before (cs ++ after) ts) (h' : Cuts cs after us) :
    Cuts (before ++ cs) after (ts ++ us) := by
  generalize hbehind : cs ++ after = behind at h
  induction h with
  | nil => exact h'
  | blank hc _ ih => exact .blank hc (ih hbehind)
  | token hread _ ih =>
    subst hbehind
    rw [List.append_assoc]
    exact .token (by rwa [List.append_assoc]) (ih rfl)

/-- **A part of a text is cut into the same tokens before what continues none of them.** -/
theorem Cuts.gentler (h : Cuts cs after ts) (hafter : Gentler after after') :
    Cuts cs after' ts := by
  induction h with
  | nil => exact .nil
  | blank hc _ ih => exact .blank hc (ih hafter)
  | @token token span cs after ts hread _ ih =>
    exact .token (hread.gentler (hafter.append cs)) (ih hafter)

theorem cuts_blanks (hcs : ∀ c ∈ cs, isBlank c = true) (after : List Char) :
    Cuts cs after [] := by
  induction cs with
  | nil => exact .nil
  | cons c cs ih =>
    obtain ⟨hc, hcs⟩ := List.forall_mem_cons.mp hcs
    exact .blank hc (ih hcs)

/-! ## Cutting a whole text -/

/-- **A text is scanned part by part**: the first part gives its own tokens, and the rest is scanned
from where it ends. -/
theorem Cuts.scanFrom_append (h : Cuts before after ts) (position : Nat) :
    ∃ lexemes, lexemes.map Lexeme.token = ts
      ∧ (∀ lexeme ∈ lexemes, lexeme.stop ≤ position + before.length)
      ∧ scanFrom position (before ++ after)
        = ⟨lexemes ++ (scanFrom (position + before.length) after).lexemes,
          (scanFrom (position + before.length) after).ending⟩ := by
  induction h generalizing position with
  | nil => exact ⟨[], rfl, nofun, rfl⟩
  | @blank c cs after ts hc _ ih =>
    obtain ⟨lexemes, htokens, hstop, hscan⟩ := ih (position + 1)
    rw [Nat.add_right_comm, Nat.add_assoc] at hstop hscan
    refine ⟨lexemes, htokens, hstop, ?_⟩
    rw [List.cons_append, scanFrom, if_pos hc]
    exact hscan
  | @token token span cs after ts hread _ ih =>
    obtain ⟨lexemes, htokens, hstop, hscan⟩ := ih (position + span.length)
    rw [Nat.add_assoc, ← List.length_append] at hstop hscan
    refine ⟨⟨token, position, position + span.length⟩ :: lexemes, congrArg (token :: ·) htokens,
      List.forall_mem_cons.mpr ⟨?_, hstop⟩, ?_⟩
    · rw [List.length_append]
      dsimp only
      omega
    · rw [List.append_assoc, scanFrom_of_read position hread, hscan]
      rfl

theorem cuts_of_finished {stop : Nat} (h : (scanFrom position cs).ending = .finished stop) :
    Cuts cs [] (scanFrom position cs).tokens := by
  fun_induction scanFrom position cs with
  | case1 => exact .nil
  | case2 position c cs hc ih => exact .blank hc (ih h)
  | case3 => cases h
  | case4 position c cs hc token span rest hread ih =>
    obtain ⟨htext, hread⟩ := readToken_eq_token_iff.mp hread
    rw [← htext]
    exact .token (by rwa [List.append_nil]) (ih h)

/-- **A text is cut into its tokens exactly when it can be scanned to its end.** -/
theorem cuts_iff : Cuts cs [] ts ↔
    (∃ stop, (scan cs).ending = .finished stop) ∧ (scan cs).tokens = ts := by
  constructor
  · intro h
    obtain ⟨lexemes, rfl, -, hscan⟩ := h.scanFrom_append 0
    rw [List.append_nil, scanFrom, List.append_nil] at hscan
    rw [scan, hscan]
    exact ⟨⟨_, rfl⟩, rfl⟩
  · rintro ⟨⟨stop, hending⟩, rfl⟩
    exact cuts_of_finished hending

theorem Cuts.unique (h : Cuts cs [] ts) (h' : Cuts cs [] us) : ts = us :=
  (cuts_iff.mp h).2.symm.trans (cuts_iff.mp h').2

/-- A text is cut part by part. -/
theorem Cuts.whole (h : Cuts before after ts) (h' : Cuts after [] us) :
    Cuts (before ++ after) [] (ts ++ us) := by
  rw [← List.append_nil after] at h
  exact h.append h'

/-- A text is cut token by token. -/
theorem Read.whole_cuts (h : Read token span after) (h' : Cuts after [] ts) :
    Cuts (span ++ after) [] (token :: ts) := .token (by rwa [List.append_nil]) h'

/-! ## Parting a text -/

theorem le_start_of_mem {lexeme : Lexeme} (h : lexeme ∈ (scanFrom position cs).lexemes) :
    position ≤ lexeme.start := by
  fun_induction scanFrom position cs with
  | case1 => cases h
  | case2 position c cs hc ih => exact (Nat.le_succ _).trans (ih h)
  | case3 => cases h
  | case4 position c cs hc token span rest hread ih =>
    rcases List.mem_cons.mp h with rfl | h
    · exact Nat.le_refl _
    · exact (Nat.le_add_right _ _).trans (ih h)

/-- What is as long as a part of a text is that part, or begins with it. -/
theorem exists_eq_append_of_length_le {α : Type} {a b c d : List α} (h : a ++ b = c ++ d)
    (hlength : a.length ≤ c.length) : ∃ m, c = a ++ m ∧ b = m ++ d := by
  rcases List.append_eq_append_iff.mp h with ⟨m, hc, hb⟩ | ⟨m, ha, hd⟩
  · exact ⟨m, hc, hb⟩
  · rw [ha, List.length_append] at hlength
    obtain rfl : m = [] := List.eq_nil_of_length_eq_zero (by omega)
    exact ⟨[], by simpa using ha.symm, by simpa using hd.symm⟩

/-- **A part of a text is cut in two at a place that lies in no token.** -/
theorem Cuts.exists_cut {middle : List Char} (h : Cuts cs after ts) (hcs : cs = before ++ middle)
    (hplace : ∀ lexeme ∈ (scanFrom position (cs ++ after)).lexemes,
      position + before.length ≤ lexeme.start ∨ lexeme.stop ≤ position + before.length) :
    ∃ us vs, Cuts before (middle ++ after) us ∧ Cuts middle after vs := by
  induction h generalizing before position with
  | nil =>
    obtain ⟨rfl, rfl⟩ := List.append_eq_nil_iff.mp hcs.symm
    exact ⟨[], [], .nil, .nil⟩
  | @blank c cs after ts hc hcuts ih =>
    rcases before with _ | ⟨b, before⟩
    · obtain rfl : c :: cs = middle := hcs
      exact ⟨[], ts, .nil, .blank hc hcuts⟩
    · obtain ⟨rfl, rfl⟩ := List.cons.inj hcs
      obtain ⟨us, vs, hus, hvs⟩ := @ih before (position + 1) rfl fun lexeme hmem => by
        have := hplace lexeme (by rwa [List.cons_append, scanFrom, if_pos hc])
        rw [List.length_cons] at this
        omega
      exact ⟨us, vs, .blank hc hus, hvs⟩
  | @token token span cs after ts hread hcuts ih =>
    rcases before with _ | ⟨b, before⟩
    · obtain rfl : span ++ cs = middle := hcs
      exact ⟨[], token :: ts, .nil, .token hread hcuts⟩
    · rw [List.append_assoc, scanFrom_of_read position hread] at hplace
      obtain ⟨hfirst, hplace⟩ := List.forall_mem_cons.mp hplace
      have hle : span.length ≤ (b :: before).length := by
        rw [List.length_cons] at hfirst ⊢
        dsimp only at hfirst
        omega
      obtain ⟨between, hbefore, hrest⟩ := exists_eq_append_of_length_le hcs hle
      obtain ⟨us, vs, hus, hvs⟩ := ih hrest fun lexeme hmem => by
        have := hplace lexeme hmem
        rw [hbefore, List.length_append] at this
        omega
      refine ⟨token :: us, vs, hbefore ▸ .token ?_ hus, hvs⟩
      rwa [hrest, List.append_assoc] at hread

/-- **A text is cut in two at a place that lies in no token.** -/
theorem cuts_of_boundary {stop : Nat}
    (hending : (scanFrom position (before ++ after)).ending = .finished stop)
    (hplace : ∀ lexeme ∈ (scanFrom position (before ++ after)).lexemes,
      position + before.length ≤ lexeme.start ∨ lexeme.stop ≤ position + before.length) :
    ∃ ts us, Cuts before after ts ∧ Cuts after [] us := by
  obtain ⟨ts, us, hts, hus⟩ :=
    (cuts_of_finished hending).exists_cut rfl (by rwa [List.append_nil])
  exact ⟨ts, us, by rwa [List.append_nil] at hts, hus⟩

/-- **A text is cut around each of its tokens.** -/
theorem cuts_of_lexeme {stop : Nat}
    (hending : (scanFrom position (before ++ (span ++ after))).ending = .finished stop)
    (h : ⟨token, position + before.length, position + before.length + span.length⟩
      ∈ (scanFrom position (before ++ (span ++ after))).lexemes) :
    ∃ ts us, Cuts before (span ++ after) ts ∧ Read token span after ∧ Cuts after [] us := by
  generalize htext : before ++ (span ++ after) = text at hending h
  fun_induction scanFrom position text generalizing before with
  | case1 => cases h
  | case2 position c cs hc ih =>
    rcases before with _ | ⟨b, before⟩
    · have := le_start_of_mem h
      simp only [List.length_nil] at this
      omega
    · obtain ⟨rfl, rfl⟩ := List.cons.inj htext
      rw [List.length_cons, Nat.add_comm before.length, ← Nat.add_assoc] at h
      obtain ⟨ts, us, hts, hrest⟩ := ih rfl hending h
      exact ⟨ts, us, .blank hc hts, hrest⟩
  | case3 => cases hending
  | case4 position c cs hc token' span' rest hread ih =>
    obtain ⟨hspan, hread⟩ := readToken_eq_token_iff.mp hread
    rcases List.mem_cons.mp h with heq | h
    · obtain ⟨rfl, hstart, hstop⟩ := Lexeme.mk.inj heq
      obtain rfl : before = [] := List.eq_nil_of_length_eq_zero (by omega)
      have hlength : span'.length = span.length := by
        rw [List.length_nil] at hstop
        omega
      have htext : span ++ after = c :: cs := htext
      obtain ⟨rfl, rfl⟩ := List.append_inj (hspan.trans htext.symm) hlength
      exact ⟨[], _, .nil, hread, cuts_of_finished hending⟩
    · have hle := le_start_of_mem h
      dsimp only at hle
      obtain ⟨middle, rfl, hrest⟩ :=
        exists_eq_append_of_length_le (hspan.trans htext.symm) (by omega)
      rw [List.length_append, ← Nat.add_assoc] at h
      obtain ⟨ts, us, hts, hafter⟩ := ih hrest.symm hending h
      exact ⟨token' :: ts, us, .token (hrest ▸ hread) hts, hafter⟩

end Spreadsheet
