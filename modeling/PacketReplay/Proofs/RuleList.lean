import Mathlib.Data.List.Forall2
import PacketReplay.Edit.Basic

set_option autoImplicit false

namespace PacketReplay

/-- An error about a rule with the rule's position moved on; other errors are left as they are. -/
def PacketError.shift (n : Nat) : PacketError → PacketError
  | .invalidRule index fault => .invalidRule (n + index) fault
  | e => e

def Rule.RefusedOn (r : Rule) (p : Record) (policy : Policy) : Prop :=
  ∃ e, applyRules p [r] policy = .error e

section

variable (start : Nat) (rs : List Rule)

theorem compileFrom_cons_error (r : Rule) (fault : RuleFault) (h : r.compile = .error fault) :
    compileFrom start (r :: rs) = .error (.invalidRule start fault) := by
  rw [compileFrom, h]

theorem compileFrom_cons_ok (r : Rule) (edit : Edit) (h : r.compile = .ok edit) :
    compileFrom start (r :: rs) = (compileFrom (start + 1) rs).map (edit :: ·) := by
  rw [compileFrom, h]
  cases compileFrom (start + 1) rs <;> rfl

theorem compileFrom_add (n : Nat) :
    compileFrom (n + start) rs = (compileFrom start rs).mapError (.shift n) := by
  induction rs generalizing start with
  | nil => rfl
  | cons r rs ih =>
    cases hc : r.compile with
    | error fault =>
      rw [compileFrom_cons_error _ _ r fault hc, compileFrom_cons_error _ _ r fault hc]
      rfl
    | ok edit =>
      rw [compileFrom_cons_ok _ _ r edit hc, compileFrom_cons_ok _ _ r edit hc, Nat.add_assoc, ih]
      cases compileFrom (start + 1) rs <;> rfl

theorem compileFrom_ok_iff (es : List Edit) :
    compileFrom start rs = .ok es ↔ List.Forall₂ (fun r e => r.compile = .ok e) rs es := by
  induction rs generalizing start es with
  | nil => simp [compileFrom, eq_comm]
  | cons r rs ih =>
    rw [List.forall₂_cons_left_iff]
    cases hc : r.compile with
    | error fault => simp [compileFrom_cons_error start rs r fault hc]
    | ok edit =>
      rw [compileFrom_cons_ok start rs r edit hc]
      simp only [← ih (start + 1)]
      cases compileFrom (start + 1) rs with
      | error e => simp [Except.map]
      | ok es' => simp [Except.map, eq_comm]

theorem compileFrom_exists_iff :
    (∃ es, compileFrom start rs = .ok es) ↔ ∀ r ∈ rs, ∃ edit, r.compile = .ok edit := by
  simp only [compileFrom_ok_iff]
  induction rs with
  | nil => simp
  | cons r rs ih =>
    rw [List.forall_mem_cons, ← ih]
    constructor
    · rintro ⟨es, h⟩
      obtain ⟨edit, es', hr, hrs, -⟩ := List.forall₂_cons_left_iff.mp h
      exact ⟨⟨edit, hr⟩, es', hrs⟩
    · rintro ⟨⟨edit, hr⟩, es, hrs⟩
      exact ⟨edit :: es, .cons hr hrs⟩

theorem compileFrom_mem (es : List Edit) (h : compileFrom start rs = .ok es) :
    ∀ e ∈ es, ∃ r ∈ rs, r.compile = .ok e := by
  rw [compileFrom_ok_iff] at h
  induction h with
  | nil => simp
  | cons hr _ ih =>
    rw [List.forall_mem_cons]
    refine ⟨⟨_, List.mem_cons_self, hr⟩, fun e he => ?_⟩
    obtain ⟨r, hmem, hc⟩ := ih e he
    exact ⟨r, List.mem_cons_of_mem _ hmem, hc⟩

theorem compileFrom_append (rs' : List Rule) :
    compileFrom start (rs ++ rs') =
      match compileFrom start rs with
      | .ok es => (compileFrom (start + rs.length) rs').map (es ++ ·)
      | .error e => .error e := by
  induction rs generalizing start with
  | nil =>
    change compileFrom start rs' = (compileFrom start rs').map id
    cases compileFrom start rs' <;> rfl
  | cons r rs ih =>
    rw [List.cons_append]
    cases hc : r.compile with
    | error fault => simp only [compileFrom_cons_error _ _ r fault hc]
    | ok edit =>
      have hlength : start + (r :: rs).length = start + 1 + rs.length := by
        rw [List.length_cons]
        omega
      rw [compileFrom_cons_ok _ _ r edit hc, compileFrom_cons_ok _ _ r edit hc, ih, hlength]
      cases compileFrom (start + 1) rs with
      | error e => rfl
      | ok es => cases compileFrom (start + 1 + rs.length) rs' <;> rfl

theorem compileFrom_concat (r : Rule) (es : List Edit)
    (h : compileFrom start (rs ++ [r]) = .ok es) :
    ∃ es' edit, compileFrom start rs = .ok es' ∧ r.compile = .ok edit ∧ es = es' ++ [edit] := by
  rw [compileFrom_append] at h
  cases hrs : compileFrom start rs with
  | error e =>
    rw [hrs] at h
    cases h
  | ok es' =>
    cases hc : r.compile with
    | error fault =>
      rw [hrs, compileFrom_cons_error _ [] r fault hc] at h
      cases h
    | ok edit =>
      rw [hrs, compileFrom_cons_ok _ [] r edit hc] at h
      cases h
      exact ⟨es', edit, rfl, rfl, rfl⟩

theorem compileFrom_error_iff (e : PacketError) :
    compileFrom start rs = .error e ↔ ∃ before r after fault, rs = before ++ r :: after ∧
      (∀ s ∈ before, ∃ edit, s.compile = .ok edit) ∧ r.compile = .error fault ∧
      e = .invalidRule (start + before.length) fault := by
  constructor
  · intro h
    induction rs generalizing start with
    | nil => cases h
    | cons r rs ih =>
      cases hc : r.compile with
      | error fault =>
        rw [compileFrom_cons_error start rs r fault hc] at h
        exact ⟨[], r, rs, fault, rfl, by simp, hc, (Except.error.inj h).symm⟩
      | ok edit =>
        rw [compileFrom_cons_ok start rs r edit hc] at h
        cases ht : compileFrom (start + 1) rs with
        | ok es =>
          rw [ht] at h
          cases h
        | error e' =>
          rw [ht] at h
          cases h
          obtain ⟨before, s, after, fault, rfl, hbefore, hs, rfl⟩ := ih (start + 1) ht
          refine ⟨r :: before, s, after, fault, rfl, ?_, hs, ?_⟩
          · rw [List.forall_mem_cons]
            exact ⟨⟨edit, hc⟩, hbefore⟩
          · rw [List.length_cons, Nat.add_right_comm, Nat.add_assoc]
  · rintro ⟨before, r, after, fault, rfl, hbefore, hr, rfl⟩
    obtain ⟨es, hes⟩ := (compileFrom_exists_iff start before).mpr hbefore
    rw [compileFrom_append, hes]
    simp only [compileFrom_cons_error _ _ r fault hr, Except.map]

end

section

variable (p : Record) (policy : Policy)

theorem applyRules_append (rs rs' : List Rule) :
    applyRules p (rs ++ rs') policy =
      match applyRules p rs policy with
      | .ok m => (applyRules m rs' policy).mapError (.shift rs.length)
      | .error e => .error e := by
  have hshift := compileFrom_add 0 rs' rs.length
  rw [Nat.add_zero] at hshift
  simp only [applyRules, compileFrom_append, Nat.zero_add, hshift]
  cases compileFrom 0 rs with
  | error e => rfl
  | ok es =>
    cases compileFrom 0 rs' with
    | error e => rfl
    | ok es' => simp only [Except.mapError, Except.map, List.foldl_append]

theorem applyRules_ok_iff (rs : List Rule) (q : Record) :
    applyRules p rs policy = .ok q ↔
      ∃ es, compileFrom 0 rs = .ok es ∧ es.foldl (Edit.apply policy) p = q := by
  rw [applyRules]
  cases compileFrom 0 rs <;> simp

theorem applyRules_error_iff (rs : List Rule) (e : PacketError) :
    applyRules p rs policy = .error e ↔ compileFrom 0 rs = .error e := by
  rw [applyRules]
  cases compileFrom 0 rs <;> simp

theorem applyRules_singleton (r : Rule) (e : Edit) (h : r.compile = .ok e) :
    applyRules p [r] policy = .ok (e.apply policy p) := by
  rw [applyRules, compileFrom_cons_ok 0 [] r e h]
  rfl

/-- A rule fails alone when it is no edit, whatever it is applied to. -/
theorem applyRules_singleton_error_iff (r : Rule) (e : PacketError) :
    applyRules p [r] policy = .error e ↔
      ∃ fault, r.compile = .error fault ∧ e = .invalidRule 0 fault := by
  rw [applyRules_error_iff]
  cases hc : r.compile with
  | error fault =>
    rw [compileFrom_cons_error 0 [] r fault hc]
    simp [eq_comm]
  | ok edit =>
    rw [compileFrom_cons_ok 0 [] r edit hc]
    simp [compileFrom, Except.map]

theorem Rule.not_refusedOn_iff (r : Rule) :
    ¬ r.RefusedOn p policy ↔ ∃ edit, r.compile = .ok edit := by
  simp only [RefusedOn, applyRules_singleton_error_iff]
  cases r.compile <;> simp

theorem applyRules_error_iff_first (rs : List Rule) (e : PacketError) :
    applyRules p rs policy = .error e ↔ ∃ before r after fault, rs = before ++ r :: after ∧
      (∀ s ∈ before, ¬ s.RefusedOn p policy) ∧
      applyRules p [r] policy = .error (.invalidRule 0 fault) ∧
      e = .invalidRule before.length fault := by
  rw [applyRules_error_iff, compileFrom_error_iff]
  simp only [Nat.zero_add, Rule.not_refusedOn_iff, applyRules_singleton_error_iff,
    PacketError.invalidRule.injEq, true_and, exists_eq_right']

theorem applyRules_exists_iff (rs : List Rule) :
    (∃ q, applyRules p rs policy = .ok q) ↔ ∀ r ∈ rs, ¬ r.RefusedOn p policy := by
  simp only [Rule.not_refusedOn_iff, ← compileFrom_exists_iff 0, applyRules_ok_iff]
  constructor
  · rintro ⟨q, es, h, -⟩
    exact ⟨es, h⟩
  · rintro ⟨es, h⟩
    exact ⟨_, es, h, rfl⟩

theorem applyRules_fails_iff (rs : List Rule) :
    (∃ e, applyRules p rs policy = .error e) ↔ ∃ r ∈ rs, r.RefusedOn p policy := by
  have hnot : (∃ e, applyRules p rs policy = .error e) ↔ ¬ ∃ q, applyRules p rs policy = .ok q := by
    cases applyRules p rs policy <;> simp
  rw [hnot, applyRules_exists_iff]
  simp only [not_forall, not_not, exists_prop]

end

/-- **Lists of rules compose and fail as a whole.** An empty list changes nothing. Two lists that
follow one another are one list: the second is applied to what the first has made, with its faults
at positions moved on by the length of the first, and if the first fails that is the answer. A list
fails exactly when one of its rules fails alone, at the first such rule and for the same reason; and
whether a rule fails alone does not depend on the record or the policy. -/
theorem applyRules_compose (p : Record) (policy : Policy) (rs rs' : List Rule) :
    applyRules p [] policy = .ok p ∧
    applyRules p (rs ++ rs') policy =
      (match applyRules p rs policy with
      | .ok m => (applyRules m rs' policy).mapError (.shift rs.length)
      | .error e => .error e) ∧
    ((∃ e, applyRules p rs policy = .error e) ↔ ∃ r ∈ rs, r.RefusedOn p policy) ∧
    (∀ e, applyRules p rs policy = .error e ↔ ∃ before r after fault, rs = before ++ r :: after ∧
      (∀ s ∈ before, ¬ s.RefusedOn p policy) ∧
      applyRules p [r] policy = .error (.invalidRule 0 fault) ∧
      e = .invalidRule before.length fault) ∧
    ∀ r q policy' e, applyRules p [r] policy = .error e ↔ applyRules q [r] policy' = .error e := by
  refine ⟨rfl, applyRules_append p policy rs rs', applyRules_fails_iff p policy rs,
    applyRules_error_iff_first p policy rs, ?_⟩
  intro r q policy' e
  rw [applyRules_singleton_error_iff, applyRules_singleton_error_iff]

end PacketReplay
