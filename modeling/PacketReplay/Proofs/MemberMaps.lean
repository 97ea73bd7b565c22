import Mathlib.Data.List.Sort
import PacketReplay.Proofs.HeldValues

set_option autoImplicit false

namespace PacketReplay.Json

theorem lookup_cons (k : String) (v : Json) (ms : List (String × Json)) (name : String) :
    List.lookup name ((k, v) :: ms) = if name = k then some v else ms.lookup name := by
  rw [List.lookup_cons]
  by_cases h : name = k
  · rw [if_pos h, beq_iff_eq.mpr h]
  · rw [if_neg h, beq_eq_false_iff_ne.mpr h]

theorem lookup_insertMember (k : String) (v : Json) (ms : List (String × Json)) (name : String) :
    (insertMember k v ms).lookup name = if name = k then some v else ms.lookup name := by
  induction ms with
  | nil => exact lookup_cons k v [] name
  | cons p ms ih =>
    obtain ⟨q, w⟩ := p
    by_cases hk : k = q
    · subst hk
      rw [insertMember, if_pos rfl, lookup_cons, lookup_cons]
      split_ifs <;> rfl
    · by_cases hlt : k < q
      · rw [insertMember, if_neg hk, if_pos hlt, lookup_cons]
      · rw [insertMember, if_neg hk, if_neg hlt, lookup_cons, lookup_cons, ih]
        by_cases hq : name = q
        · rw [if_pos hq, if_neg fun h => hk (h.symm.trans hq), if_pos hq]
        · rw [if_neg hq, if_neg hq]

theorem isSome_lookup_iff (ms : List (String × Json)) (name : String) :
    (ms.lookup name).isSome = true ↔ name ∈ ms.map Prod.fst := by
  rw [List.lookup_isSome_iff, List.mem_map]
  exact exists_congr fun m => and_congr_right fun _ => beq_iff_eq.trans eq_comm

namespace Rising

variable {ms ns : List (String × Json)}

theorem lookup_eq_some_iff (h : Rising ms) (name : String) (v : Json) :
    ms.lookup name = some v ↔ (name, v) ∈ ms := by
  induction ms with
  | nil => simp
  | cons p ms ih =>
    obtain ⟨k, w⟩ := p
    obtain ⟨hk, hms⟩ := List.pairwise_cons.mp h
    rw [lookup_cons, List.mem_cons, Prod.mk.injEq]
    by_cases hname : name = k
    · subst hname
      have hnot : (name, v) ∉ ms := fun hm => lt_irrefl name (hk _ hm)
      simp [hnot, eq_comm]
    · simp [hname, ih hms]

theorem lookup_of_mem (h : Rising ms) (m : String × Json) (hm : m ∈ ms) :
    ms.lookup m.1 = some m.2 :=
  (h.lookup_eq_some_iff m.1 m.2).mpr hm

theorem filter (h : Rising ms) (p : String × Json → Bool) : Rising (ms.filter p) :=
  List.Pairwise.filter p h

theorem eq_of_lookup (h : Rising ms) (h' : Rising ns)
    (he : ∀ name, ms.lookup name = ns.lookup name) : ms = ns := by
  have : Std.Irrefl fun a b : String × Json => a.1 < b.1 := ⟨fun a => lt_irrefl a.1⟩
  have : Std.Antisymm fun a b : String × Json => a.1 < b.1 :=
    ⟨fun _ _ hab hba => absurd hab (lt_asymm hba)⟩
  refine List.Pairwise.eq_of_mem_iff h h' fun m => ?_
  rw [← h.lookup_eq_some_iff, ← h'.lookup_eq_some_iff, he]

theorem lookup_filter (h : Rising ms) (p : String → Prop) [DecidablePred p] (name : String) :
    (ms.filter fun m => p m.1).lookup name = if p name then ms.lookup name else none := by
  ext v
  rw [(h.filter _).lookup_eq_some_iff, List.mem_filter]
  by_cases hp : p name <;> simp [hp, h.lookup_eq_some_iff]

end Rising

theorem get?_cons (m : String × Json) (ms : List (String × Json)) (name : String) :
    (obj (m :: ms)).get? name =
      ((obj ms).get? name).or (if m.1 = name then some m.2 else none) := by
  have hlast : ((m :: ms).reverse.find? fun p => p.1 == name) =
      (ms.reverse.find? fun p => p.1 == name).or (if m.1 = name then some m else none) := by
    rw [List.reverse_cons, List.find?_append, List.find?_singleton]
    simp only [beq_iff_eq]
  rw [get?, hlast, get?]
  cases ms.reverse.find? fun p => p.1 == name <;> split_ifs <;> rfl

theorem get?_filter (ms : List (String × Json)) (p : String → Bool) (name : String) :
    (obj (ms.filter fun m => p m.1)).get? name =
      if p name then (obj ms).get? name else none := by
  induction ms with
  | nil => simp [get?]
  | cons m ms ih =>
    rw [List.filter_cons, get?_cons]
    by_cases hm : m.1 = name
    · subst hm
      cases hp : p m.1 <;> simp [hp, get?_cons, ih]
    · cases p m.1 <;> simp [get?_cons, ih, hm]

theorem lookup_canonicalMembers (ms acc : List (String × Json)) (name : String) :
    (canonicalMembers ms acc).lookup name =
      (((obj ms).get? name).map canonical).or (acc.lookup name) := by
  induction ms generalizing acc with
  | nil => rfl
  | cons m ms ih =>
    rw [canonicalMembers, ih, lookup_insertMember, get?_cons]
    cases (obj ms).get? name with
    | some w => rfl
    | none =>
      by_cases hm : m.1 = name
      · simp [hm]
      · simp [hm, Ne.symm hm]

end PacketReplay.Json
