import Spreadsheet.Proofs.Registry.Represented
import Spreadsheet.Registry.Structure

/-!
# Proofs/Registry/Loops — what the loops of an edit leave in the tables

New cells take the next ids one after the other, and the counter may start over among them
(`cell?_materializeAll_idAfter`, `cell?_materializeAll_of_ne`).  A remapping reads two indices in any
order, and what it leaves does not depend on the order: a position leads to the cell that was sent
there (`idAt_remap_iff`), and a cell has the name of its new position and the dependents that are
left (`cell?_remap_of_moved`, `cell?_remap_of_unplaced`).  Both kinds of loop keep the names in step
with the positions (`NamesFollow.materializeAll`, `namesFollow_remap`).
-/

namespace Spreadsheet

namespace Registry

variable {r : Registry} {p q : Position} {id : CellId}

/-! ## Creating cells -/

theorem idAfter_eq (r : Registry) (k : Nat) :
    r.idAfter k = ⟨(r.nextId.toNat + k) % UInt32.size⟩ := by
  rw [idAfter, UInt32.toNat_add, UInt32.toNat_ofNat']
  exact congrArg CellId.mk (Nat.add_mod_mod _ _ _)

/-- Until the counter starts over, the ids are numbered in sequence. -/
theorem idAfter_of_lt {k : Nat} (h : r.nextId.toNat + k < UInt32.size) :
    r.idAfter k = ⟨r.nextId.toNat + k⟩ := by rw [idAfter_eq, Nat.mod_eq_of_lt h]

theorem idAfter_zero (r : Registry) : r.idAfter 0 = ⟨r.nextId.toNat⟩ :=
  idAfter_of_lt r.nextId.toNat_lt

theorem idAfter_materialize (r : Registry) (p : Position) (k : Nat) :
    (r.materialize p).idAfter k = r.idAfter (k + 1) := by
  rw [idAfter_eq, idAfter_eq]
  show (⟨((r.nextId + 1).toNat + k) % UInt32.size⟩ : CellId) = _
  rw [UInt32.toNat_add, CellId.mk.injEq, UInt32.size, UInt32.toNat_one]
  omega

/-- Less than a full turn of the counter issues no id twice. -/
theorem idAfter_injective {j k : Nat} (hj : j < UInt32.size) (hk : k < UInt32.size)
    (h : r.idAfter j = r.idAfter k) : j = k := by
  rw [idAfter_eq, idAfter_eq, CellId.mk.injEq] at h
  have := r.nextId.toNat_lt
  rw [UInt32.size] at *
  omega

theorem cell?_materialize (r : Registry) (p : Position) (id : CellId) :
    (r.materialize p).cell? id =
      if id = r.idAfter 0 then some (.blank id p.name) else r.cell? id := by
  rw [idAfter_zero]
  show (r.cells.insert _ _)[id]? = _
  rw [Std.HashMap.getElem?_insert]
  by_cases h : id = ⟨r.nextId.toNat⟩
  · subst h
    simp
  · simp [h, Ne.symm h, cell?]

theorem idAt_materialize (r : Registry) (p q : Position) : (r.materialize p).idAt q =
    if q = p then some (r.idAfter 0) else r.idAt q := by
  rw [idAfter_zero]
  show (r.positions.insert _ _)[q]? = _
  rw [Std.HashMap.getElem?_insert]
  by_cases h : q = p
  · simp [h]
  · simp [h, Ne.symm h, idAt]

section

variable {places : List Position} {k : Nat}

theorem nextId_materializeAll (r : Registry) (places : List Position) :
    (r.materializeAll places).nextId.toNat = (r.nextId.toNat + places.length) % UInt32.size := by
  induction places generalizing r with
  | nil => exact (Nat.mod_eq_of_lt r.nextId.toNat_lt).symm
  | cons p places ih =>
    refine (ih (r.materialize p)).trans ?_
    show ((r.nextId + 1).toNat + places.length) % UInt32.size = _
    rw [UInt32.toNat_add, UInt32.toNat_one, List.length_cons, UInt32.size]
    omega

theorem rows_materializeAll (r : Registry) (places : List Position) :
    (r.materializeAll places).rows = r.rows := by
  induction places generalizing r with
  | nil => rfl
  | cons p places ih => exact ih (r.materialize p)

theorem cols_materializeAll (r : Registry) (places : List Position) :
    (r.materializeAll places).cols = r.cols := by
  induction places generalizing r with
  | nil => rfl
  | cons p places ih => exact ih (r.materialize p)

/-- A cell whose id is not issued again stays. -/
theorem cell?_materializeAll_of_ne (h : ∀ k < places.length, id ≠ r.idAfter k) :
    (r.materializeAll places).cell? id = r.cell? id := by
  induction places generalizing r with
  | nil => rfl
  | cons p places ih =>
    have hrest : ∀ k < places.length, id ≠ (r.materialize p).idAfter k := fun k hk => by
      rw [idAfter_materialize]
      exact h (k + 1) (Nat.succ_lt_succ hk)
    refine (ih hrest).trans ?_
    rw [cell?_materialize, if_neg (h 0 (Nat.zero_lt_succ _))]

/-- **The cells of a line are empty and take the ids issued next**, whether or not there are cells
with these ids. -/
theorem cell?_materializeAll_idAfter (hplaces : places.length ≤ UInt32.size)
    (hk : k < places.length) :
    (r.materializeAll places).cell? (r.idAfter k) = some (.blank (r.idAfter k) places[k].name) := by
  induction places generalizing r k with
  | nil => cases hk
  | cons p places ih =>
    show ((r.materialize p).materializeAll places).cell? _ = _
    rw [List.length_cons] at hplaces hk
    cases k with
    | zero =>
      rw [cell?_materializeAll_of_ne fun k hk heq => ?_, cell?_materialize, if_pos rfl]
      · rfl
      · rw [idAfter_materialize] at heq
        exact absurd (idAfter_injective (by decide) (by omega) heq) (Nat.succ_ne_zero k).symm
    | succ k =>
      rw [← idAfter_materialize r p k, ih (by omega) (by omega)]
      rfl

theorem idAt_materializeAll_of_notMem (h : p ∉ places) :
    (r.materializeAll places).idAt p = r.idAt p := by
  induction places generalizing r with
  | nil => rfl
  | cons q places ih =>
    rw [List.mem_cons, not_or] at h
    refine (ih h.2).trans ?_
    rw [idAt_materialize, if_neg h.1]

/-- The positions of a line get the ids issued next, in turn. -/
theorem idAt_materializeAll_getElem (hplaces : places.Nodup) (hk : k < places.length) :
    (r.materializeAll places).idAt places[k] = some (r.idAfter k) := by
  induction places generalizing r k with
  | nil => cases hk
  | cons p places ih =>
    show ((r.materialize p).materializeAll places).idAt _ = _
    obtain ⟨hp, hplaces⟩ := List.nodup_cons.mp hplaces
    cases k with
    | zero =>
      rw [List.getElem_cons_zero, idAt_materializeAll_of_notMem hp, idAt_materialize, if_pos rfl]
    | succ k =>
      rw [List.getElem_cons_succ, ih hplaces (Nat.lt_of_succ_lt_succ hk), idAfter_materialize]

section

variable {length : Nat} {place : Nat → Position}

theorem cell?_materializeAll_map (hlength : length ≤ UInt32.size) (hk : k < length) :
    (r.materializeAll ((List.range length).map place)).cell? (r.idAfter k)
      = some (.blank (r.idAfter k) (place k).name) := by
  have hcount : ((List.range length).map place).length = length := by simp
  have hcell := cell?_materializeAll_idAfter (r := r) (hcount ▸ hlength) (hcount ▸ hk)
  rwa [List.getElem_map, List.getElem_range] at hcell

theorem idAt_materializeAll_map (hplace : ∀ j k, place j = place k → j = k) (hk : k < length) :
    (r.materializeAll ((List.range length).map place)).idAt (place k) = some (r.idAfter k) := by
  have hcount : ((List.range length).map place).length = length := by simp
  have hid := idAt_materializeAll_getElem (r := r) (List.nodup_range.map hplace) (hcount ▸ hk)
  rwa [List.getElem_map, List.getElem_range] at hid

end

/-- Different positions have different names, so a new name displaces that of its position alone. -/
theorem NamesFollow.materialize (h : r.NamesFollow) (p : Position) :
    (r.materialize p).NamesFollow := by
  intro name id
  show (r.names.insert p.name _)[name]? = some id ↔ _
  rw [Std.HashMap.getElem?_insert, ← idAfter_zero]
  simp only [idAt_materialize]
  by_cases hname : p.name = name
  · subst hname
    rw [if_pos (beq_self_eq_true _)]
    constructor
    · exact fun heq => ⟨p, (if_pos rfl).trans heq, rfl⟩
    · rintro ⟨q, hid, hq⟩
      rwa [if_pos (Position.name_injective hq)] at hid
  · rw [if_neg (by simpa using hname), h]
    refine exists_congr fun q => and_congr_left fun hq => ?_
    rw [if_neg]
    rintro rfl
    exact hname hq

theorem NamesFollow.materializeAll (h : r.NamesFollow) (places : List Position) :
    (r.materializeAll places).NamesFollow := by
  induction places generalizing r with
  | nil => exact h
  | cons p places ih => exact ih (h.materialize p)

end

/-! ## Reading an index in any order -/

section

variable (arrangement : Arrangement) (index : Std.HashMap Position CellId)

theorem mem_arrange_iff : (p, id) ∈ arrangement.arrange index.toList ↔ index[p]? = some id := by
  rw [(arrangement.perm _).mem_iff, Std.HashMap.mem_toList_iff_getElem?_eq_some]

theorem nodup_keys_arrange : ((arrangement.arrange index.toList).map Prod.fst).Nodup := by
  rw [((arrangement.perm _).map Prod.fst).nodup_iff, Std.HashMap.map_fst_toList_eq_keys]
  exact index.nodup_keys

end

/-- A table built from a list without repeated keys. -/
theorem getElem?_ofList_eq_some_iff {κ ν : Type} [BEq κ] [Hashable κ] [LawfulBEq κ]
    {entries : List (κ × ν)} (h : (entries.map Prod.fst).Nodup) {key : κ} {value : ν} :
    (Std.HashMap.ofList entries)[key]? = some value ↔ (key, value) ∈ entries := by
  have hdistinct : entries.Pairwise fun a b => (a.1 == b.1) = false :=
    (List.pairwise_map.mp h).imp fun hne => by simpa using hne
  constructor
  · intro hvalue
    have hmem : key ∈ entries.map Prod.fst := by
      by_contra hnotMem
      rw [Std.HashMap.getElem?_ofList_of_contains_eq_false (by simpa using hnotMem)] at hvalue
      cases hvalue
    obtain ⟨entry, hentry, rfl⟩ := List.mem_map.mp hmem
    rw [Std.HashMap.getElem?_ofList_of_mem (beq_self_eq_true _) hdistinct hentry] at hvalue
    rwa [← Option.some.inj hvalue]
  · exact Std.HashMap.getElem?_ofList_of_mem (beq_self_eq_true _) hdistinct

/-! ## Remapping -/

theorem foldl_discard (ids : List CellId) (r : Registry) :
    ids.foldl discard r = { r with cells := ids.foldl Std.HashMap.erase r.cells } := by
  induction ids generalizing r with
  | nil => rfl
  | cons id ids ih => exact ih (r.discard id)

theorem getElem?_foldl_erase (ids : List CellId) (cells : Std.HashMap CellId Entry) (id : CellId) :
    (ids.foldl Std.HashMap.erase cells)[id]? = if id ∈ ids then none else cells[id]? := by
  induction ids generalizing cells with
  | nil => simp
  | cons j ids ih =>
    rw [List.foldl_cons, ih, Std.HashMap.getElem?_erase]
    by_cases h : id = j
    · simp [h]
    · simp [h, Ne.symm h]

theorem foldl_removeDependent (ids : List CellId) (r : Registry) :
    ids.foldl removeDependent r = { r with
      cells := ids.foldl (fun cells id => cells.map fun _ => Entry.removeDependent id)
        r.cells } := by
  induction ids generalizing r with
  | nil => rfl
  | cons id ids ih => exact ih (r.removeDependent id)

/-- Taking ids off all lists one by one takes them off together. -/
theorem getElem?_foldl_removeDependent (ids : List CellId) (cells : Std.HashMap CellId Entry)
    (id : CellId) :
    (ids.foldl (fun cells id => cells.map fun _ => Entry.removeDependent id) cells)[id]?
      = cells[id]?.map fun e => { e with dependents := e.dependents.filter (· ∉ ids) } := by
  induction ids generalizing cells with
  | nil => simp
  | cons j ids ih =>
    rw [List.foldl_cons, ih, Std.HashMap.getElem?_map, Option.map_map]
    refine congrArg (Option.map · _) (funext fun e => ?_)
    simp only [Function.comp, Entry.removeDependent, List.filter_filter]
    congr 1
    refine List.filter_congr fun k _ => ?_
    by_cases h : k = j <;> simp [h]

theorem foldl_rename (entries : List (Position × CellId)) (r : Registry) :
    entries.foldl rename r = { r with
      cells := entries.foldl (fun cells entry =>
        cells.modify entry.2 fun e => { e with name := entry.1.name }) r.cells
      names := entries.foldl (fun names entry => names.insert entry.1.name entry.2) r.names } := by
  induction entries generalizing r with
  | nil => rfl
  | cons entry entries ih => exact ih (r.rename entry)

theorem getElem?_foldl_modify_of_notMem {entries : List (Position × CellId)}
    {cells : Std.HashMap CellId Entry} (h : id ∉ entries.map Prod.snd) :
    (entries.foldl (fun cells entry =>
      cells.modify entry.2 fun e => { e with name := entry.1.name }) cells)[id]? = cells[id]? := by
  induction entries generalizing cells with
  | nil => rfl
  | cons entry entries ih =>
    rw [List.map_cons, List.mem_cons, not_or] at h
    rw [List.foldl_cons, ih h.2, Std.HashMap.getElem?_modify, if_neg (by simpa using Ne.symm h.1)]

/-- A cell that is listed once gets the name of its position. -/
theorem getElem?_foldl_modify_of_mem {entries : List (Position × CellId)}
    {cells : Std.HashMap CellId Entry} (hentries : (entries.map Prod.snd).Nodup)
    (h : (p, id) ∈ entries) :
    (entries.foldl (fun cells entry =>
      cells.modify entry.2 fun e => { e with name := entry.1.name }) cells)[id]?
      = cells[id]?.map fun e => { e with name := p.name } := by
  induction entries generalizing cells with
  | nil => cases h
  | cons entry entries ih =>
    obtain ⟨hnotMem, hentries⟩ := List.nodup_cons.mp hentries
    rw [List.foldl_cons]
    rcases List.mem_cons.mp h with rfl | hmem
    · rw [getElem?_foldl_modify_of_notMem hnotMem, Std.HashMap.getElem?_modify_self]
    · have hne : entry.2 ≠ id := by
        rintro rfl
        exact hnotMem (List.mem_map.mpr ⟨_, hmem, rfl⟩)
      rw [ih hentries hmem, Std.HashMap.getElem?_modify, if_neg (by simpa using hne)]

/-- The names that were entered in turn. -/
theorem getElem?_foldl_insert_iff {entries : List (Position × CellId)}
    (h : (entries.map Prod.fst).Nodup) {name : String} :
    (entries.foldl (fun names entry => names.insert entry.1.name entry.2)
      (∅ : Std.HashMap String CellId))[name]? = some id ↔
        ∃ p, (p, id) ∈ entries ∧ p.name = name := by
  have hnames : ((entries.map fun entry => (entry.1.name, entry.2)).map Prod.fst).Nodup := by
    rw [List.map_map, show Prod.fst ∘ (fun entry : Position × CellId => (entry.1.name, entry.2))
      = Position.name ∘ Prod.fst from rfl, ← List.map_map]
    exact h.map fun _ _ => Position.name_injective
  have hequiv : (Std.HashMap.ofList (entries.map fun entry => (entry.1.name, entry.2))).Equiv
      ((entries.map fun entry => (entry.1.name, entry.2)).foldl
        (fun names entry => names.insert entry.1 entry.2) ∅) := Std.HashMap.ofList_equiv_foldl
  rw [List.foldl_map] at hequiv
  rw [← hequiv.getElem?_eq, getElem?_ofList_eq_some_iff hnames, List.mem_map]
  constructor
  · rintro ⟨entry, hentry, heq⟩
    obtain ⟨hname, rfl⟩ := Prod.mk.inj heq
    exact ⟨entry.1, hentry, hname⟩
  · rintro ⟨p, hentry, rfl⟩
    exact ⟨(p, id), hentry, rfl⟩

section

variable {orders : Orders} {move : Position → Option Position}

/-- What a remapping leaves in the tables. -/
theorem remap_eq (orders : Orders) (move : Position → Option Position) (r : Registry) :
    r.remap orders move = { r with
      cells := (orders.naming.arrange (r.movedPositions orders move).toList).foldl
        (fun cells entry => cells.modify entry.2 fun e => { e with name := entry.1.name })
        ((r.unplacedIds orders move).foldl
          (fun cells id => cells.map fun _ => Entry.removeDependent id)
          ((r.unplacedIds orders move).foldl Std.HashMap.erase r.cells))
      positions := r.movedPositions orders move
      names := (orders.naming.arrange (r.movedPositions orders move).toList).foldl
        (fun names entry => names.insert entry.1.name entry.2) ∅ } := by
  rw [remap, foldl_rename, foldl_removeDependent, foldl_discard]

theorem rows_remap : (r.remap orders move).rows = r.rows := by rw [remap_eq]

theorem cols_remap : (r.remap orders move).cols = r.cols := by rw [remap_eq]

theorem nextId_remap : (r.remap orders move).nextId = r.nextId := by rw [remap_eq]

theorem mem_unplacedIds_iff :
    id ∈ r.unplacedIds orders move ↔ ∃ p, r.idAt p = some id ∧ move p = none := by
  simp only [unplacedIds, List.mem_filterMap, Option.ite_none_right_eq_some,
    Option.isNone_iff_eq_none, Option.some.injEq]
  constructor
  · rintro ⟨entry, hentry, hmove, rfl⟩
    exact ⟨entry.1, (mem_arrange_iff _ _).mp hentry, hmove⟩
  · rintro ⟨p, hid, hmove⟩
    exact ⟨(p, id), (mem_arrange_iff _ _).mpr hid, hmove, rfl⟩

variable (hmove : ∀ p p' q, move p = some q → move p' = some q → p = p')

include hmove

/-- **A position leads to the cell that was sent there.** -/
theorem idAt_remap_iff (orders : Orders) : (r.remap orders move).idAt q = some id ↔
    ∃ p, r.idAt p = some id ∧ move p = some q := by
  have hkeys : (((orders.moving.arrange r.positions.toList).filterMap fun entry =>
      (move entry.1).map (·, entry.2)).map Prod.fst).Nodup := by
    rw [List.map_filterMap]
    have hfirst : (fun entry : Position × CellId => ((move entry.1).map (·, entry.2)).map Prod.fst)
        = move ∘ Prod.fst := funext fun entry => by cases h : move entry.1 <;> simp [h]
    rw [hfirst, ← List.filterMap_map]
    exact (nodup_keys_arrange _ _).filterMap fun p p' q hp hp' => hmove p p' q hp hp'
  rw [remap_eq, idAt, movedPositions, getElem?_ofList_eq_some_iff hkeys]
  simp only [List.mem_filterMap, Option.map_eq_some_iff, Prod.mk.injEq]
  constructor
  · rintro ⟨entry, hentry, q', hq, rfl, rfl⟩
    exact ⟨entry.1, (mem_arrange_iff _ _).mp hentry, hq⟩
  · rintro ⟨p, hid, hq⟩
    exact ⟨(p, id), (mem_arrange_iff _ _).mpr hid, q, hq, rfl, rfl⟩

omit hmove in
/-- **The names are entered anew, each for the cell at its position.** -/
theorem namesFollow_remap (orders : Orders) (move : Position → Option Position) (r : Registry) :
    (r.remap orders move).NamesFollow := by
  intro name id
  rw [remap_eq]
  show (List.foldl _ _ _)[name]? = some id ↔ ∃ p, (r.movedPositions orders move)[p]? = some id ∧ _
  rw [getElem?_foldl_insert_iff (nodup_keys_arrange _ _)]
  exact exists_congr fun p => by rw [mem_arrange_iff]

/-- A remapped index lists only cells that were sent somewhere. -/
theorem exists_moved_of_mem_arrange (arrangement : Arrangement)
    (h : (q, id) ∈ arrangement.arrange (r.movedPositions orders move).toList) :
    ∃ p, r.idAt p = some id ∧ move p = some q := by
  refine (idAt_remap_iff hmove orders).mp ?_
  rw [remap_eq]
  exact (mem_arrange_iff _ _).mp h

/-- A cell that was sent nowhere is not there afterwards. -/
theorem cell?_remap_of_unplaced (hid : ∀ p, r.idAt p = some id → move p = none)
    (hlive : r.isLive id = true → ∃ p, r.idAt p = some id) :
    (r.remap orders move).cell? id = none := by
  have hnotMem : id ∉ (orders.naming.arrange (r.movedPositions orders move).toList).map
      Prod.snd := by
    intro hmem
    obtain ⟨entry, hentry, rfl⟩ := List.mem_map.mp hmem
    obtain ⟨p, hp, hq⟩ := exists_moved_of_mem_arrange hmove _ hentry
    rw [hid p hp] at hq
    cases hq
  rw [remap_eq, cell?]
  dsimp only
  rw [getElem?_foldl_modify_of_notMem hnotMem, getElem?_foldl_removeDependent,
    getElem?_foldl_erase, Option.map_eq_none_iff, ite_eq_left_iff, mem_unplacedIds_iff]
  intro hplaced
  refine Option.not_isSome_iff_eq_none.mp fun hsome => hplaced ?_
  obtain ⟨p, hp⟩ := hlive hsome
  exact ⟨p, hp, hid p hp⟩

/-- **A cell has the name of its new position, and the dependents that are left.** -/
theorem cell?_remap_of_moved (hr : ∀ p q id, r.idAt p = some id → r.idAt q = some id → p = q)
    (hid : r.idAt p = some id) (hq : move p = some q) :
    (r.remap orders move).cell? id = (r.cell? id).map fun e => { e with
      name := q.name
      dependents := e.dependents.filter (· ∉ r.unplacedIds orders move) } := by
  have hplaced : id ∉ r.unplacedIds orders move := by
    rw [mem_unplacedIds_iff]
    rintro ⟨p', hid', hnone⟩
    rw [hr p p' id hid hid', hnone] at hq
    cases hq
  have hentry : (q, id) ∈ orders.naming.arrange (r.movedPositions orders move).toList := by
    rw [mem_arrange_iff]
    have := (idAt_remap_iff hmove orders).mpr ⟨p, hid, hq⟩
    rwa [remap_eq] at this
  have hids : ((orders.naming.arrange (r.movedPositions orders move).toList).map
      Prod.snd).Nodup := by
    refine (nodup_keys_arrange _ _).of_map.map_on fun entry hentry entry' hentry' heq => ?_
    obtain ⟨p, hp, hq⟩ := exists_moved_of_mem_arrange hmove _ hentry
    obtain ⟨p', hp', hq'⟩ := exists_moved_of_mem_arrange hmove _ hentry'
    rw [hr p p' _ hp (heq ▸ hp'), hq'] at hq
    exact Prod.ext (Option.some.inj hq).symm heq
  rw [remap_eq, cell?]
  dsimp only
  rw [getElem?_foldl_modify_of_mem hids hentry, getElem?_foldl_removeDependent,
    getElem?_foldl_erase, if_neg hplaced, Option.map_map]
  rfl

end

end Registry

end Spreadsheet
