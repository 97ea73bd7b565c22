import Mathlib.Data.List.Forall2
import PacketReplay.Packet.Header
import PacketReplay.Proofs.HeaderNames

set_option autoImplicit false

namespace PacketReplay

namespace Headers

section

variable (hs : Headers) (name value : String)

theorem has_eq_false_iff : hs.has name = false ↔ ∀ line ∈ hs, line.named name = false := by
  rw [has, List.any_eq_false]
  simp only [Bool.not_eq_true]

theorem exists_first (h : hs.has name = true) :
    ∃ front first back, hs = front ++ first :: back ∧ first.named name = true ∧
      ∀ line ∈ front, line.named name = false := by
  cases hf : hs.find? (Header.named name) with
  | none =>
    obtain ⟨line, hline, hn⟩ := List.any_eq_true.mp h
    exact absurd hn (List.find?_eq_none.mp hf line hline)
  | some first =>
    obtain ⟨hn, front, back, rfl, hfront⟩ := List.find?_eq_some_iff_append.mp hf
    exact ⟨front, first, back, rfl, hn, fun line hline => by simpa using hfront line hline⟩

theorem value?_eq_head? : hs.value? name = (hs.values name).head? := by
  rw [value?, values, List.head?_map, List.head?_filter]

theorem has_iff_values : hs.has name = true ↔ hs.values name ≠ [] := by
  rw [has, values, Ne, List.map_eq_nil_iff, List.filter_eq_nil_iff, List.any_eq_true]
  simp

theorem has_iff_value? : hs.has name = true ↔ ∃ v, hs.value? name = some v := by
  rw [has_iff_values, value?_eq_head?, ← Option.isSome_iff_exists, List.isSome_head?]

theorem values_add : (hs.add name value).values name = hs.values name ++ [value] := by
  rw [values, filter_add_named, List.map_append]
  rfl

theorem values_without : (hs.without name).values name = [] := by
  rw [values, filter_without_named, List.map_nil]

theorem length_without : hs.length - (hs.without name).length = (hs.values name).length := by
  have hsplit := List.length_eq_length_filter_add (l := hs) (Header.named name)
  rw [values, List.length_map, without]
  omega

end

section

variable (name value : String)

theorem replaceFirst?_absent (hs : Headers) (h : ∀ line ∈ hs, line.named name = false) :
    hs.replaceFirst? name value = none := by
  induction hs with
  | nil => rfl
  | cons line hs ih =>
    obtain ⟨hline, hrest⟩ := List.forall_mem_cons.mp h
    rw [replaceFirst?, hline, ih hrest]
    rfl

theorem keepFirst_absent (hs : Headers) (h : ∀ line ∈ hs, line.named name = false) :
    hs.keepFirst name = hs := by
  induction hs with
  | nil => rfl
  | cons line hs ih =>
    obtain ⟨hline, hrest⟩ := List.forall_mem_cons.mp h
    rw [keepFirst, hline, ih hrest]
    rfl

variable (front : Headers) (first : Header) (back : Headers) (hfirst : first.named name = true)
  (hfront : ∀ line ∈ front, line.named name = false)

include hfirst hfront

theorem replaceFirst?_first : replaceFirst? (front ++ first :: back) name value =
    some (front ++ ⟨name, value⟩ :: back) := by
  induction front with
  | nil => rw [List.nil_append, replaceFirst?, if_pos hfirst, List.nil_append]
  | cons line front ih =>
    obtain ⟨hline, hrest⟩ := List.forall_mem_cons.mp hfront
    rw [List.cons_append, replaceFirst?, hline, ih hrest]
    rfl

theorem keepFirst_first : keepFirst (front ++ first :: back) name =
    front ++ first :: back.without name := by
  induction front with
  | nil => rw [List.nil_append, keepFirst, if_pos hfirst, List.nil_append]
  | cons line front ih =>
    obtain ⟨hline, hrest⟩ := List.forall_mem_cons.mp hfront
    rw [List.cons_append, keepFirst, hline, ih hrest]
    rfl

theorem values_first : values (front ++ first :: back) name =
    first.value :: back.values name := by
  have hnone : front.filter (Header.named name) = [] := by
    rw [List.filter_eq_nil_iff]
    intro line hline
    rw [hfront line hline]
    decide
  rw [values, List.filter_append, hnone, List.nil_append, List.filter_cons_of_pos hfirst]
  rfl

end

section

variable (hs : Headers) (name value : String)

theorem values_keepFirst : (hs.keepFirst name).values name = (hs.values name).take 1 := by
  cases hhas : hs.has name with
  | false =>
    have habsent := (has_eq_false_iff hs name).mp hhas
    have hnone : hs.values name = [] := by
      by_contra hne
      rw [(has_iff_values hs name).mpr hne] at hhas
      cases hhas
    rw [keepFirst_absent name hs habsent, hnone, List.take_nil]
  | true =>
    obtain ⟨front, first, back, rfl, hfirst, hfront⟩ := exists_first hs name hhas
    rw [keepFirst_first name front first back hfirst hfront,
      values_first name front first _ hfirst hfront, values_first name front first _ hfirst hfront,
      values_without]
    rfl

theorem keepFirst_keepFirst : (hs.keepFirst name).keepFirst name = hs.keepFirst name := by
  cases hhas : hs.has name with
  | false =>
    have habsent := (has_eq_false_iff hs name).mp hhas
    rw [keepFirst_absent name hs habsent, keepFirst_absent name hs habsent]
  | true =>
    obtain ⟨front, first, back, rfl, hfirst, hfront⟩ := exists_first hs name hhas
    rw [keepFirst_first name front first back hfirst hfront,
      keepFirst_first name front first _ hfirst hfront, without_without]

end

section

variable (hs : Headers) (name value : String) (keep : Header → Bool)
  (hkeep : ∀ h, h.named name = true → keep h = false)

include hkeep

theorem filter_replaceFirst?_other (changed : Headers)
    (h : hs.replaceFirst? name value = some changed) : changed.filter keep = hs.filter keep := by
  have hnew : keep ⟨name, value⟩ = false := hkeep _ (sameIgnoringCase_self name)
  cases hhas : hs.has name with
  | false =>
    rw [replaceFirst?_absent name value hs ((has_eq_false_iff hs name).mp hhas)] at h
    cases h
  | true =>
    obtain ⟨front, first, back, rfl, hfirst, hfront⟩ := exists_first hs name hhas
    rw [replaceFirst?_first name value front first back hfirst hfront] at h
    cases h
    rw [List.filter_append, List.filter_append, List.filter_cons_of_neg (by rw [hnew]; decide),
      List.filter_cons_of_neg (by rw [hkeep first hfirst]; decide)]

theorem filter_keepFirst_other : (hs.keepFirst name).filter keep = hs.filter keep := by
  induction hs with
  | nil => rfl
  | cons line hs ih =>
    rw [keepFirst]
    split
    · rw [List.filter_cons, List.filter_cons, filter_without_other hs name keep hkeep]
    · rw [List.filter_cons, List.filter_cons, ih]

end

end Headers

/-- Whether an operation is one that changes lines of the name of this one. -/
def HeaderOp.touches (op : HeaderOp) (line : Header) : Bool :=
  match op.action with
  | .add _ => line.named op.name
  | .replaceFirst _ => line.named op.name
  | .keepFirst => line.named op.name
  | .remove => line.named op.name
  | _ => false

namespace Headers

theorem filter_perform_other (hs : Headers) (op : HeaderOp) (keep : Header → Bool)
    (hkeep : ∀ line, op.touches line = true → keep line = false) :
    (hs.perform op).2.filter keep = hs.filter keep := by
  obtain ⟨name, action⟩ := op
  cases action with
  | add value => exact filter_add_other hs name value keep hkeep
  | replaceFirst value =>
    simp only [perform]
    split
    · rename_i changed h
      exact filter_replaceFirst?_other hs name value keep hkeep changed h
    · rfl
  | keepFirst => exact filter_keepFirst_other hs name keep hkeep
  | remove => exact filter_without_other hs name keep hkeep
  | first | all | has => rfl

theorem filter_performAll_other (ops : List HeaderOp) (hs : Headers) (keep : Header → Bool)
    (hkeep : ∀ op ∈ ops, ∀ line, op.touches line = true → keep line = false) :
    (hs.performAll ops).2.filter keep = hs.filter keep := by
  induction ops generalizing hs with
  | nil => rfl
  | cons op ops ih =>
    obtain ⟨hop, hrest⟩ := List.forall_mem_cons.mp hkeep
    exact (ih (hs.perform op).2 hrest).trans (filter_perform_other hs op keep hop)

end Headers

def HeaderOp.written? (op : HeaderOp) : Option String :=
  match op.action with
  | .add _ => some op.name
  | .replaceFirst _ => some op.name
  | _ => none

/-- Two operations that are the same but for the case of letters in the name. -/
structure HeaderOp.Alike (a b : HeaderOp) : Prop where
  name : sameIgnoringCase a.name b.name = true
  action : a.action = b.action

/-- Two lines that are the same, or have the same value and a name that two operations spell
differently. -/
inductive Header.Respelled (spelled : String → String → Prop) (h g : Header) : Prop where
  | same (heq : h = g)
  | written (hspelled : spelled h.name g.name) (hname : sameIgnoringCase h.name g.name = true)
    (hvalue : h.value = g.value)

section

variable {spelled : String → String → Prop} {h g : Header}

theorem Header.Respelled.sameName (hr : h.Respelled spelled g) :
    sameIgnoringCase h.name g.name = true := by
  cases hr with
  | same heq => rw [heq, sameIgnoringCase_self]
  | written _ hname => exact hname

theorem Header.Respelled.sameValue (hr : h.Respelled spelled g) : h.value = g.value := by
  cases hr with
  | same heq => rw [heq]
  | written _ _ hvalue => exact hvalue

theorem Header.Respelled.named_eq (hr : h.Respelled spelled g) (a b : String)
    (hab : sameIgnoringCase a b = true) : h.named a = g.named b := by
  rw [Header.named_congr a b hab, Header.named, Header.named, sameIgnoringCase, sameIgnoringCase,
    (sameIgnoringCase_iff _ _).mp hr.sameName]

end

namespace Headers

def Respelled (spelled : String → String → Prop) (hs gs : Headers) : Prop :=
  List.Forall₂ (Header.Respelled spelled) hs gs

section

variable {spelled : String → String → Prop} {hs gs : Headers} (hr : Respelled spelled hs gs)
  (a b : String) (hab : sameIgnoringCase a b = true)

include hr hab

theorem Respelled.filter_named :
    Respelled spelled (hs.filter (Header.named a)) (gs.filter (Header.named b)) := by
  induction hr with
  | nil => exact .nil
  | @cons h g hs gs hline _ ih =>
    have hn := hline.named_eq a b hab
    rw [List.filter_cons, List.filter_cons, hn]
    split
    · exact .cons hline ih
    · exact ih

theorem Respelled.values_eq : hs.values a = gs.values b := by
  have hlines := hr.filter_named a b hab
  rw [values, values]
  generalize hs.filter (Header.named a) = xs at hlines
  generalize gs.filter (Header.named b) = ys at hlines
  induction hlines with
  | nil => rfl
  | cons hline _ ih => rw [List.map_cons, List.map_cons, hline.sameValue, ih]

theorem Respelled.has_eq : hs.has a = gs.has b := by
  rw [Bool.eq_iff_iff, has_iff_values, has_iff_values, hr.values_eq a b hab]

theorem Respelled.without : Respelled spelled (hs.without a) (gs.without b) := by
  induction hr with
  | nil => exact .nil
  | @cons h g hs gs hline _ ih =>
    have hn := hline.named_eq a b hab
    rw [Headers.without, Headers.without, List.filter_cons, List.filter_cons, hn]
    split
    · exact .cons hline ih
    · exact ih

theorem Respelled.keepFirst : Respelled spelled (hs.keepFirst a) (gs.keepFirst b) := by
  induction hr with
  | nil => exact .nil
  | @cons h g hs gs hline hrest ih =>
    have hn := hline.named_eq a b hab
    rw [Headers.keepFirst, Headers.keepFirst, hn]
    split
    · exact .cons hline (Respelled.without hrest a b hab)
    · exact .cons hline ih

theorem Respelled.replaceFirst? (value : String) (hspelled : spelled a b) :
    Option.Rel (Respelled spelled) (hs.replaceFirst? a value) (gs.replaceFirst? b value) := by
  induction hr with
  | nil => exact .none
  | @cons h g hs gs hline hrest ih =>
    have hn := hline.named_eq a b hab
    rw [Headers.replaceFirst?, Headers.replaceFirst?, hn]
    split
    · exact .some (.cons (.written hspelled hab rfl) hrest)
    · generalize Headers.replaceFirst? hs a value = x at ih ⊢
      generalize Headers.replaceFirst? gs b value = y at ih ⊢
      cases ih with
      | none => exact .none
      | some htail => exact .some (.cons hline htail)

end

/-- Operations that differ in the spelling of names answer the same. -/
theorem Respelled.perform {spelled : String → String → Prop} {hs gs : Headers}
    (hr : Respelled spelled hs gs) (a b : HeaderOp) (h : a.Alike b)
    (hspelled : ∀ s ∈ a.written?, ∀ t ∈ b.written?, spelled s t) :
    (hs.perform a).1 = (gs.perform b).1 ∧
      Respelled spelled (hs.perform a).2 (gs.perform b).2 := by
  obtain ⟨name, action⟩ := a
  obtain ⟨spelling, _⟩ := b
  obtain ⟨hname, rfl⟩ := h
  have hvalues := hr.values_eq name spelling hname
  cases action with
  | add value =>
    have hwritten : spelled name spelling := hspelled name rfl spelling rfl
    exact ⟨rfl, List.rel_append hr (.cons (.written hwritten hname rfl) .nil)⟩
  | replaceFirst value =>
    have hchanged := hr.replaceFirst? name spelling hname value (hspelled name rfl spelling rfl)
    simp only [Headers.perform]
    generalize hs.replaceFirst? name value = x at hchanged ⊢
    generalize gs.replaceFirst? spelling value = y at hchanged ⊢
    cases hchanged with
    | none => exact ⟨rfl, hr⟩
    | some hlines => exact ⟨rfl, hlines⟩
  | keepFirst => exact ⟨rfl, hr.keepFirst name spelling hname⟩
  | remove =>
    refine ⟨?_, hr.without name spelling hname⟩
    simp only [Headers.perform, length_without, hvalues]
  | first => exact ⟨by simp only [Headers.perform, value?_eq_head?, hvalues], hr⟩
  | all => exact ⟨by simp only [Headers.perform, hvalues], hr⟩
  | has => exact ⟨by simp only [Headers.perform, hr.has_eq name spelling hname], hr⟩

theorem Respelled.performAll {spelled : String → String → Prop} {as bs : List HeaderOp}
    (h : List.Forall₂ HeaderOp.Alike as bs)
    (hspelled : ∀ p ∈ as.zip bs, ∀ s ∈ p.1.written?, ∀ t ∈ p.2.written?, spelled s t)
    {hs gs : Headers} (hr : Respelled spelled hs gs) :
    (hs.performAll as).1 = (gs.performAll bs).1 ∧
      Respelled spelled (hs.performAll as).2 (gs.performAll bs).2 := by
  induction h generalizing hs gs with
  | nil => exact ⟨rfl, hr⟩
  | @cons a b as bs hab _ ih =>
    obtain ⟨hfirst, hrest⟩ := List.forall_mem_cons.mp hspelled
    obtain ⟨hanswer, hnext⟩ := hr.perform a b hab hfirst
    obtain ⟨hanswers, hlast⟩ := ih hrest hnext
    refine ⟨?_, hlast⟩
    simp only [Headers.performAll, hanswer, hanswers]

end Headers

/-- How operations that go together spell the names that they write. -/
def HeaderOp.Spelled (as bs : List HeaderOp) (s t : String) : Prop :=
  ∃ p ∈ as.zip bs, p.1.written? = some s ∧ p.2.written? = some t

/-- What the operations about one name have to do with each other on a list. -/
structure Headers.Coherent (hs : Headers) (name value : String) : Prop where
  has_iff_first : hs.has name = true ↔ ∃ v, hs.value? name = some v
  has_iff_all : hs.has name = true ↔ hs.values name ≠ []
  first_of_all : hs.value? name = (hs.values name).head?
  add : hs.perform ⟨name, .add value⟩ = (.done, hs ++ [⟨name, value⟩])
  remove_answer : (hs.perform ⟨name, .remove⟩).1 = .count (hs.values name).length
  remove_all : (hs.perform ⟨name, .remove⟩).2.values name = []
  keep_all : (hs.perform ⟨name, .keepFirst⟩).2.values name = (hs.values name).take 1
  keep_twice : ((hs.perform ⟨name, .keepFirst⟩).2.perform ⟨name, .keepFirst⟩).2 =
    (hs.perform ⟨name, .keepFirst⟩).2
  replace_answer : (hs.perform ⟨name, .replaceFirst value⟩).1 = .holds (hs.has name)
  replace_length : (hs.perform ⟨name, .replaceFirst value⟩).2.length = hs.length
  absent : hs.has name = false → (hs.perform ⟨name, .keepFirst⟩).2 = hs ∧
    (hs.perform ⟨name, .replaceFirst value⟩).2 = hs
  present : hs.has name = true → ∃ (front : Headers) (first : Header) (back : Headers),
    hs = front ++ first :: back ∧ first.named name = true ∧
    (∀ line ∈ front, line.named name = false) ∧
    hs.values name = first.value :: back.values name ∧
    (hs.perform ⟨name, .keepFirst⟩).2 = front ++ first :: back.without name ∧
    (hs.perform ⟨name, .replaceFirst value⟩).2 = front ++ ⟨name, value⟩ :: back ∧
    (hs.perform ⟨name, .replaceFirst value⟩).2.values name = value :: (hs.values name).tail

namespace Headers

section

variable (hs : Headers) (name value : String)

theorem perform_replaceFirst_absent (h : hs.has name = false) :
    hs.perform ⟨name, .replaceFirst value⟩ = (.holds false, hs) := by
  simp only [perform, replaceFirst?_absent name value hs ((has_eq_false_iff hs name).mp h)]

theorem perform_replaceFirst_present (front : Headers) (first : Header) (back : Headers)
    (hfirst : first.named name = true) (hfront : ∀ line ∈ front, line.named name = false) :
    perform (front ++ first :: back) ⟨name, .replaceFirst value⟩ =
      (.holds true, front ++ ⟨name, value⟩ :: back) := by
  simp only [perform, replaceFirst?_first name value front first back hfirst hfront]

theorem perform_replaceFirst_cases :
    (hs.has name = false ∧ hs.perform ⟨name, .replaceFirst value⟩ = (.holds false, hs)) ∨
    (hs.has name = true ∧ ∃ front first back, hs = front ++ first :: back ∧
      first.named name = true ∧ (∀ line ∈ front, line.named name = false) ∧
      hs.perform ⟨name, .replaceFirst value⟩ = (.holds true, front ++ ⟨name, value⟩ :: back)) := by
  cases hhas : hs.has name with
  | false => exact .inl ⟨rfl, perform_replaceFirst_absent hs name value hhas⟩
  | true =>
    obtain ⟨front, first, back, rfl, hfirst, hfront⟩ := exists_first hs name hhas
    exact .inr ⟨rfl, front, first, back, rfl, hfirst, hfront,
      perform_replaceFirst_present name value front first back hfirst hfront⟩

theorem coherent : hs.Coherent name value where
  has_iff_first := has_iff_value? hs name
  has_iff_all := has_iff_values hs name
  first_of_all := value?_eq_head? hs name
  add := rfl
  remove_answer := congrArg HeaderAnswer.count (length_without hs name)
  remove_all := values_without hs name
  keep_all := values_keepFirst hs name
  keep_twice := keepFirst_keepFirst hs name
  replace_answer := by
    rcases perform_replaceFirst_cases hs name value with ⟨hhas, h⟩ | ⟨hhas, _, _, _, -, -, -, h⟩
    · rw [h, hhas]
    · rw [h, hhas]
  replace_length := by
    rcases perform_replaceFirst_cases hs name value with
      ⟨-, h⟩ | ⟨-, front, first, back, rfl, -, -, h⟩
    · rw [h]
    · rw [h, List.length_append, List.length_append, List.length_cons, List.length_cons]
  absent hhas := by
    rw [perform_replaceFirst_absent hs name value hhas]
    exact ⟨keepFirst_absent name hs ((has_eq_false_iff hs name).mp hhas), rfl⟩
  present hhas := by
    obtain ⟨front, first, back, rfl, hfirst, hfront⟩ := exists_first hs name hhas
    have hself : Header.named name ⟨name, value⟩ = true := sameIgnoringCase_self name
    have hvalues := values_first name front first back hfirst hfront
    refine ⟨front, first, back, rfl, hfirst, hfront, hvalues,
      keepFirst_first name front first back hfirst hfront, ?_, ?_⟩
    · rw [perform_replaceFirst_present name value front first back hfirst hfront]
    · rw [perform_replaceFirst_present name value front first back hfirst hfront, hvalues,
        values_first name front _ back hself hfront]
      rfl

end

end Headers

/-- **Operations on header lists respect names.** After any operations on a list, the lines that
none of them touches, having other names, are there with their spelling, values and order. On the
list that is then there, and for every name: it occurs just when it has a first value and when it
has any, the first being the first of all; adding puts a line at the end; removing answers how many
values there were and leaves none; keeping the first leaves the first value alone, in its place, and
changes nothing the second time; overwriting the first answers whether the name occurs, keeps the
length, and puts the new value in the place of the first with all others as they were. Operations
that spell the names with other ASCII case give the same answers and the same lines, but for the
spelling of the names that they write. -/
theorem header_operations_respect_names (hs : Headers) (ops : List HeaderOp) :
    ((hs.performAll ops).2.filter fun line => ops.all fun op => !op.touches line) =
      (hs.filter fun line => ops.all fun op => !op.touches line) ∧
    (∀ name value, (hs.performAll ops).2.Coherent name value) ∧
    ∀ spelt, List.Forall₂ HeaderOp.Alike ops spelt →
      (hs.performAll ops).1 = (hs.performAll spelt).1 ∧
      List.Forall₂ (Header.Respelled (HeaderOp.Spelled ops spelt)) (hs.performAll ops).2
        (hs.performAll spelt).2 := by
  refine ⟨?_, fun name value => Headers.coherent _ name value, fun spelt halike => ?_⟩
  · apply Headers.filter_performAll_other
    intro op hop line htouches
    rw [List.all_eq_false]
    exact ⟨op, hop, by rw [htouches]; decide⟩
  · have hstart : Headers.Respelled (HeaderOp.Spelled ops spelt) hs hs :=
      List.forall₂_same.mpr fun line _ => .same rfl
    exact hstart.performAll halike fun p hp s hs t ht => ⟨p, hp, hs, ht⟩

/-- Five operations on three lines, the names spelled in two ways. -/
theorem header_operations_respect_names_spelt :
    let hs : Headers := [⟨"A", "1"⟩, ⟨"b", "2"⟩, ⟨"a", "3"⟩]
    let ops : List HeaderOp := [⟨"a", .all⟩, ⟨"a", .keepFirst⟩, ⟨"B", .remove⟩,
      ⟨"C", .add "4"⟩, ⟨"a", .replaceFirst "5"⟩]
    let spelt : List HeaderOp := [⟨"A", .all⟩, ⟨"A", .keepFirst⟩, ⟨"b", .remove⟩,
      ⟨"c", .add "4"⟩, ⟨"A", .replaceFirst "5"⟩]
    List.Forall₂ HeaderOp.Alike ops spelt ∧
      (hs.performAll spelt).1 = [.values ["1", "3"], .done, .count 1, .done, .holds true] ∧
      List.Forall₂ (Header.Respelled (HeaderOp.Spelled ops spelt)) [⟨"a", "5"⟩, ⟨"C", "4"⟩]
        [⟨"A", "5"⟩, ⟨"c", "4"⟩] := by
  intro hs ops spelt
  have hanswers : (hs.performAll ops).1 =
      [.values ["1", "3"], .done, .count 1, .done, .holds true] := by decide +kernel +revert
  have hleft : (hs.performAll ops).2 = [⟨"a", "5"⟩, ⟨"C", "4"⟩] := by decide +kernel +revert
  have hright : (hs.performAll spelt).2 = [⟨"A", "5"⟩, ⟨"c", "4"⟩] := by decide +kernel +revert
  have halike : List.Forall₂ HeaderOp.Alike ops spelt :=
    .cons ⟨by decide, rfl⟩ (.cons ⟨by decide, rfl⟩ (.cons ⟨by decide, rfl⟩
      (.cons ⟨by decide, rfl⟩ (.cons ⟨by decide, rfl⟩ .nil))))
  obtain ⟨hsame, hlines⟩ := (header_operations_respect_names hs ops).2.2 spelt halike
  rw [hleft, hright] at hlines
  exact ⟨halike, hsame.symm.trans hanswers, hlines⟩

end PacketReplay
