import PacketReplay.Packet.Header

set_option autoImplicit false

namespace PacketReplay

theorem sameIgnoringCase_iff (a b : String) :
    sameIgnoringCase a b = true ↔ a.toList.map Char.toLower = b.toList.map Char.toLower :=
  beq_iff_eq

theorem sameIgnoringCase_self (a : String) : sameIgnoringCase a a = true :=
  (sameIgnoringCase_iff a a).mpr rfl

theorem sameIgnoringCase_comm (a b : String) : sameIgnoringCase a b = sameIgnoringCase b a :=
  Bool.beq_comm

theorem Header.named_congr (a b : String) (h : sameIgnoringCase a b = true) :
    Header.named a = Header.named b := by
  funext header
  rw [Header.named, Header.named, sameIgnoringCase, sameIgnoringCase,
    (sameIgnoringCase_iff a b).mp h]

theorem Header.sameIgnoringCase_of_named (a b : String) (header : Header)
    (ha : header.named a = true) (hb : header.named b = true) : sameIgnoringCase a b = true := by
  rw [sameIgnoringCase_iff]
  exact ((sameIgnoringCase_iff _ a).mp ha).symm.trans ((sameIgnoringCase_iff _ b).mp hb)

namespace Headers

section

variable (hs : Headers) (name value : String)

theorem set_nil : set [] name value = [⟨name, value⟩] := rfl

theorem set_cons_named (h : Header) (hn : h.named name = true) :
    set (h :: hs) name value = ⟨name, value⟩ :: hs.without name := by
  have hself : Header.named name ⟨name, value⟩ = true := sameIgnoringCase_self name
  simp only [set, replaceFirst?, hn, if_true, keepFirst, hself]

theorem set_cons_other (h : Header) (hn : h.named name = false) :
    set (h :: hs) name value = h :: set hs name value := by
  simp only [set, replaceFirst?, hn, Bool.false_eq_true, if_false]
  cases replaceFirst? hs name value with
  | none => rfl
  | some hs' => simp only [Option.map_some, keepFirst, hn, Bool.false_eq_true, if_false]

theorem set_append_other (front : Headers) (h : ∀ line ∈ front, line.named name = false) :
    set (front ++ hs) name value = front ++ set hs name value := by
  induction front with
  | nil => rfl
  | cons line front ih =>
    obtain ⟨hline, hfront⟩ := List.forall_mem_cons.mp h
    rw [List.cons_append, set_cons_other _ name value line hline, ih hfront, List.cons_append]

theorem without_eq_self (h : ∀ line ∈ hs, line.named name = false) : hs.without name = hs := by
  rw [without, List.filter_eq_self]
  intro line hline
  rw [h line hline, Bool.not_false]

theorem without_without : (hs.without name).without name = hs.without name := by
  rw [without, without, List.filter_filter]
  simp only [Bool.and_self]

theorem mem_set (line : Header) (h : line ∈ hs.set name value) :
    line ∈ hs ∨ line = ⟨name, value⟩ := by
  induction hs with
  | nil => exact .inr (List.mem_singleton.mp h)
  | cons first hs ih =>
    by_cases hn : first.named name = true
    · rw [set_cons_named hs name value first hn, List.mem_cons] at h
      rcases h with rfl | h
      · exact .inr rfl
      · exact .inl (List.mem_cons_of_mem _ (List.mem_filter.mp h).1)
    · rw [set_cons_other hs name value first (by simpa using hn), List.mem_cons] at h
      rcases h with rfl | h
      · exact .inl List.mem_cons_self
      · exact (ih h).imp_left (List.mem_cons_of_mem _)

theorem filter_set_named : (hs.set name value).filter (Header.named name) = [⟨name, value⟩] := by
  have hself : Header.named name ⟨name, value⟩ = true := sameIgnoringCase_self name
  induction hs with
  | nil => rw [set_nil, List.filter_cons_of_pos hself, List.filter_nil]
  | cons h hs ih =>
    cases hn : h.named name with
    | true =>
      rw [set_cons_named hs name value h hn, List.filter_cons_of_pos hself, without,
        List.filter_filter]
      simp
    | false =>
      rw [set_cons_other hs name value h hn, List.filter_cons_of_neg (by rw [hn]; decide), ih]

theorem filter_add_named :
    (hs.add name value).filter (Header.named name) =
      hs.filter (Header.named name) ++ [⟨name, value⟩] := by
  have hself : Header.named name ⟨name, value⟩ = true := sameIgnoringCase_self name
  rw [add, List.filter_append, List.filter_cons_of_pos hself, List.filter_nil]

theorem filter_without_named : (hs.without name).filter (Header.named name) = [] := by
  rw [without, List.filter_filter]
  simp

end

section

variable (hs : Headers) (name value : String) (keep : Header → Bool)
  (hkeep : ∀ h, h.named name = true → keep h = false)

include hkeep

theorem filter_without_other : (hs.without name).filter keep = hs.filter keep := by
  rw [without, List.filter_filter]
  apply List.filter_congr
  intro h _
  cases hn : h.named name with
  | true => simp [hkeep h hn]
  | false => simp

theorem filter_add_other : (hs.add name value).filter keep = hs.filter keep := by
  have hnew : keep ⟨name, value⟩ = false := hkeep _ (sameIgnoringCase_self name)
  rw [add, List.filter_append, List.filter_cons_of_neg (by rw [hnew]; decide), List.filter_nil,
    List.append_nil]

theorem filter_set_other : (hs.set name value).filter keep = hs.filter keep := by
  have hnew : keep ⟨name, value⟩ = false := hkeep _ (sameIgnoringCase_self name)
  induction hs with
  | nil => rw [set_nil, List.filter_cons_of_neg (by rw [hnew]; decide)]
  | cons h hs ih =>
    cases hn : h.named name with
    | true =>
      rw [set_cons_named hs name value h hn, List.filter_cons_of_neg (by rw [hnew]; decide),
        List.filter_cons_of_neg (by rw [hkeep h hn]; decide),
        filter_without_other hs name keep hkeep]
    | false =>
      rw [set_cons_other hs name value h hn, List.filter_cons, List.filter_cons, ih]

end

section

variable (hs : Headers) (name value : String) (keep : Header → Bool)

theorem filter_without_kept : (hs.without name).filter keep = without (hs.filter keep) name := by
  rw [without, without, List.filter_filter, List.filter_filter]
  apply List.filter_congr
  intro h _
  exact Bool.and_comm _ _

variable (hkeep : ∀ h, h.named name = true → keep h = true)

include hkeep

theorem filter_add_kept : (hs.add name value).filter keep = add (hs.filter keep) name value := by
  have hnew : keep ⟨name, value⟩ = true := hkeep _ (sameIgnoringCase_self name)
  rw [add, add, List.filter_append, List.filter_cons_of_pos hnew, List.filter_nil]

theorem filter_set_kept : (hs.set name value).filter keep = set (hs.filter keep) name value := by
  have hnew : keep ⟨name, value⟩ = true := hkeep _ (sameIgnoringCase_self name)
  induction hs with
  | nil => rw [set_nil, List.filter_cons_of_pos hnew, List.filter_nil, set_nil]
  | cons h hs ih =>
    by_cases hn : h.named name = true
    · rw [set_cons_named hs name value h hn, List.filter_cons_of_pos hnew,
        List.filter_cons_of_pos (hkeep h hn), set_cons_named _ name value h hn,
        filter_without_kept hs name keep]
    · have hother : h.named name = false := by simpa using hn
      rw [set_cons_other hs name value h hother]
      by_cases hk : keep h = true
      · rw [List.filter_cons_of_pos hk, List.filter_cons_of_pos hk,
          set_cons_other _ name value h hother, ih]
      · rw [List.filter_cons_of_neg hk, List.filter_cons_of_neg hk, ih]

end

end Headers

end PacketReplay
