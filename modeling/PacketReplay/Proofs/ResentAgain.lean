import PacketReplay.Proofs.SettingRules
import PacketReplay.Proofs.StoredPackets

set_option autoImplicit false

namespace PacketReplay

theorem OutboundRequest.ofRecord_congr (p q : Record) (h : ∀ part, p.AgreesOn part q) :
    OutboundRequest.ofRecord p = OutboundRequest.ofRecord q := by
  have hmethod : p.method = q.method := h .method
  have hurl : p.url = q.url := h .url
  have hheaders : p.headers = q.headers := h .headers
  have hbody : p.body = q.body := h .body
  rw [ofRecord, ofRecord, hmethod, hurl, hheaders, hbody]

theorem Record.agreesOn_of_request (p q : Record)
    (h : OutboundRequest.ofRecord p = OutboundRequest.ofRecord q) (part : Part) :
    p.AgreesOn part q := by
  obtain ⟨hmethod, hurl, hheaders, hbody⟩ := OutboundRequest.mk.inj h
  cases part with
  | headers => exact hheaders
  | url => exact hurl
  | body => exact hbody
  | method => exact hmethod

theorem Edit.foldl_agreesOn_of (es : List Edit) (policy : Policy) (part : Part) (p q : Record)
    (h : p.AgreesOn part q) :
    (es.foldl (Edit.apply policy) p).AgreesOn part (es.foldl (Edit.apply policy) q) := by
  induction es generalizing p q with
  | nil => exact h
  | cons e es ih =>
    apply ih
    by_cases hpart : e.target.part = part
    · obtain rfl := hpart
      exact e.apply_agreesOn policy p q h
    · have hp := e.apply_other policy p part hpart
      have hq := e.apply_other policy q part hpart
      exact hp.trans (h.trans hq.symm)

theorem applyRules_request (p q m : Record) (rs : List Rule) (policy : Policy)
    (hpq : OutboundRequest.ofRecord p = OutboundRequest.ofRecord q)
    (h : applyRules q rs policy = .ok m) :
    ∃ m', applyRules p rs policy = .ok m' ∧
      OutboundRequest.ofRecord m' = OutboundRequest.ofRecord m := by
  obtain ⟨es, hes, rfl⟩ := (applyRules_ok_iff q policy rs m).mp h
  refine ⟨_, (applyRules_ok_iff p policy rs _).mpr ⟨es, hes, rfl⟩, ?_⟩
  exact OutboundRequest.ofRecord_congr _ _ fun part =>
    Edit.foldl_agreesOn_of es policy part p q (p.agreesOn_of_request q hpq part)

/-- What a job has stored asks for what the job asks for. -/
def World.Echoes (w : World) : Prop :=
  ∀ (n : Nat) (j : Job), w.coordinator.jobs[n]? = some j →
    ∀ x ∈ storedBy n w.entries, OutboundRequest.ofRecord x.2 = j.request

theorem Job.Move.echoes {n : Nat} {s s' : Store} {j j' : Job} {es : List Entry}
    (hm : Job.Move n s j s' j' es) :
    ∀ x ∈ storedBy n es, OutboundRequest.ofRecord x.2 = j.request := by
  cases hm with
  | keep a hp response now r s' hi =>
    have hstored : storedBy n [.replied n a (.delivery (.delivered response)) (some r)] =
        [(a, r)] := by simp [storedBy, Entry.stored?]
    have hdraft := Store.insert_draft s _ r s' hi
    rw [hstored, List.forall_mem_singleton]
    change (⟨r.toDraft.method, r.toDraft.url, r.toDraft.headers, r.toDraft.body⟩ :
      OutboundRequest) = _
    rw [hdraft]
    rfl
  | dispatch | fail | drop | die | mirror | publish | next | pause | finish | wake =>
    simp [storedBy, Entry.stored?]

section

variable {ids : Nat → JobId} {w : World} {log : List Record}

theorem World.Echoes.step (h : w.Echoes) (hsound : w.Sound ids log) (e : Event) :
    (w.step ids e).2.Echoes := by
  have heff := w.step_effect ids e
  generalize (w.step ids e).2 = w' at heff
  have hturn : ∀ before key t, w.service.Turns ids before t → (w.turn key t).Echoes := by
    intro before key t ht n j hj
    change t.coordinator.jobs[n]? = some j at hj
    cases ht with
    | quiet => exact h n j hj
    | insert => exact h n j hj
    | mirror => exact h n j hj
    | launch job m hb source edited he =>
      change (w.coordinator.jobs.push _)[n]? = some j at hj
      rw [Array.getElem?_push] at hj
      split at hj
      · rename_i hn
        change ∀ x ∈ storedBy n w.entries, _
        rw [(hsound.unborn n (Nat.le_of_eq hn.symm)).2]
        simp
      · exact h n j hj
  cases heff with
  | idle => exact h
  | ask key a _ _ t ht => exact hturn _ key t ht
  | advance key call _ t ht => exact hturn _ key t ht
  | job m w' hstep =>
    cases hstep with
    | idle => exact h
    | move i hi s i' es hm =>
      intro n j hj
      change (w.coordinator.put m s i').jobs[n]? = some j at hj
      change ∀ x ∈ storedBy n (w.entries ++ es), _
      rw [Coordinator.getElem?_put] at hj
      rw [storedBy_append]
      split at hj
      · rename_i hmn
        obtain rfl := hmn
        rw [hi] at hj
        cases hj
        rw [hm.kept.request]
        exact List.forall_mem_append.mpr ⟨h m i hi, hm.echoes⟩
      · rename_i hmn
        rw [(hm.others n hmn).2, List.append_nil]
        exact h n j hj

theorem World.Reachable.echoes (h : w.Reachable ids) : w.Echoes := by
  induction h with
  | start service => exact fun n j _ x hx => by cases hx
  | next w hw e ih =>
    obtain ⟨log, hsound⟩ := hw.sound
    exact ih.step hsound e

theorem World.Reachable.sent_request (h : w.Reachable ids) (n : Nat) (j : Job)
    (hj : w.coordinator.jobs[n]? = some j) : ∀ x ∈ sentBy n w.entries, x.2 = j.request := by
  obtain ⟨log, hsound⟩ := h.sound
  obtain ⟨made, replied, pending, ha⟩ := (hsound.jobs n j hj).account
  intro x hx
  rw [ha.sent] at hx
  obtain ⟨a, -, rfl⟩ := List.mem_map.mp hx
  rfl

end

/-- A call is about to launch a job: it has found the packet with an id, to be edited by rules. -/
def World.Finds (w : World) (key : Nat) (id : PacketId) (source : Record) (rs : List Rule)
    (policy : Policy) : Prop :=
  ∃ job inMemory, w.calls key = some (.finding job inMemory) ∧ job.source = id ∧ job.rules = rs ∧
    job.policy = policy ∧ w.store.look inMemory id true = some (.ok source)

theorem World.Finds.launch {ids : Nat → JobId} {w : World} (hw : w.Reachable ids) {key : Nat}
    {id : PacketId} {source : Record} {rs : List Rule} {policy : Policy}
    (h : w.Finds key id source rs policy) (edited : Record)
    (hrules : applyRules source rs policy = .ok edited) (es : List Event) :
    ∃ j, (World.run ids w (.advance key :: es)).2.coordinator.jobs[w.coordinator.jobs.size]? =
      some j ∧ j.request = .ofRecord edited := by
  obtain ⟨job, inMemory, hcall, rfl, rfl, rfl, hlook⟩ := h
  obtain ⟨log, hsound⟩ := hw.sound
  obtain ⟨-, hjob⟩ := hsound.launched key job inMemory source edited hcall hlook hrules
  obtain ⟨j, hj, hkept⟩ := World.run_kept ids es _ _ _ hjob
  exact ⟨j, hj, hkept.request⟩

/-- **Rules that settle a record have nothing more to do with it.** Let rules be accepted that set,
that add headers which are not to be there twice, or that remove what no rule puts there. Applied to
what they have made of a record, they change nothing, not even the order or spelling of a header. So
let a job be launched with such rules in any reachable world, and let any events happen. When one of
the packets that it has stored is resent with the same rules, the second job sends at every attempt
the request that the first has sent. -/
theorem settling_rules_repeat (p q : Record) (policy : Policy) (rs : List Rule)
    (h : applyRules p rs policy = .ok q) (hrs : ∀ r ∈ rs, r.Settles policy rs) :
    applyRules q rs policy = .ok q ∧
    ∀ (ids : Nat → JobId) (w : World) (key : Nat), w.Reachable ids →
      w.Finds key p.id p rs policy → ∀ es : List Event,
      let n := w.coordinator.jobs.size
      let w₁ := (World.run ids w (.advance key :: es)).2
      ∀ a r, (a, r) ∈ storedBy n w₁.entries → ∀ key' s, w₁.Finds key' r.id s rs policy →
        ∀ es' : List Event,
        let n' := w₁.coordinator.jobs.size
        let w₂ := (World.run ids w₁ (.advance key' :: es')).2
        (∃ j, w₂.coordinator.jobs[n']? = some j ∧ j.request = .ofRecord q) ∧
          (∀ x ∈ sentBy n w₂.entries, x.2 = .ofRecord q) ∧
          ∀ x ∈ sentBy n' w₂.entries, x.2 = .ofRecord q := by
  have htwice : applyRules q rs policy = .ok q := by
    obtain ⟨es, hes, rfl⟩ := (applyRules_ok_iff p policy rs q).mp h
    refine (applyRules_ok_iff _ policy rs _).mpr ⟨es, hes, Edit.foldl_settled policy es ?_ p⟩
    intro e he
    obtain ⟨r, hr, hc⟩ := compileFrom_mem 0 rs es hes e he
    exact Edit.settles_of_rule policy rs es hes r e hc (hrs r hr)
  refine ⟨htwice, ?_⟩
  intro ids w key hw hfinds es n w₁ a r hstored key' s hfinds' es' n' w₂
  have hw₁ : w₁.Reachable ids := hw.run _
  have hw₂ : w₂.Reachable ids := hw₁.run _
  obtain ⟨j, hj, hrequest⟩ := hfinds.launch hw q h es
  -- What is found under the id of the resent packet is that packet.
  have hsame : s = r := by
    obtain ⟨log, hsound, hcut⟩ := hw₁.sound_cut
    have harchive : w₁.store.Archives log := ⟨hsound.holds, hcut⟩
    obtain ⟨job, inMemory, -, -, -, -, hlook⟩ := hfinds'
    obtain ⟨hs, hid⟩ := harchive.look_found inMemory r.id s hlook
    have hr : r ∈ log := (hsound.jobs n j hj).stored.subset (List.mem_map_of_mem hstored)
    exact harchive.eq_of_id s r hs hr hid
  rw [hsame] at hfinds'
  have hecho : OutboundRequest.ofRecord r = .ofRecord q :=
    (hw₁.echoes n j hj (a, r) hstored).trans hrequest
  obtain ⟨m, hm, hmq⟩ := applyRules_request r q q rs policy hecho htwice
  obtain ⟨j', hj', hrequest'⟩ := hfinds'.launch hw₁ m hm es'
  rw [hmq] at hrequest'
  obtain ⟨i, hi, hkept⟩ := World.run_kept ids (.advance key' :: es') w₁ n j hj
  refine ⟨⟨j', hj', hrequest'⟩, fun x hx => ?_, fun x hx => ?_⟩
  · rw [hw₂.sent_request n i hi x hx, hkept.request, hrequest]
  · rw [hw₂.sent_request n' j' hj' x hx, hrequest']

def Rule.settling : List Rule :=
  [.setHeader "b" "4", .addHeader "C" "5", .setHeader "B" "6", .removeHeader "a",
    ⟨"url", "set", some "/b", none⟩]

theorem Rule.settling_settles :
    ∀ r ∈ Rule.settling, r.Settles .replaceExisting Rule.settling := by
  intro r hr
  simp only [Rule.settling, List.mem_cons, List.not_mem_nil, or_false] at hr
  rcases hr with rfl | rfl | rfl | rfl | rfl
  · exact .set (by decide +kernel)
  · exact .add (by decide +kernel) "C" (by decide +kernel) rfl
  · exact .set (by decide +kernel)
  · exact .removeHeader (by decide +kernel) "a" (by decide +kernel) (by decide +kernel)
  · exact .set (by decide +kernel)

def Record.settled : Record :=
  { repeating with url := "/b", headers := [⟨"B", "6"⟩, ⟨"C", "5"⟩] }

/-- A world in which one caller is about to resend its only packet with such rules, and another the
packet after it. -/
def World.settling : World :=
  (World.run strokes
    (.start (.over (Store.run (fun _ => 1) [.append Record.repeating.toDraft none]).2))
    [.ask 0 (.execute { ResendJob.once 1 with rules := Rule.settling }),
      .ask 1 (.execute { ResendJob.once 2 with rules := Rule.settling })]).2

def World.settled : World :=
  (World.run strokes World.settling [.advance 0, .dispatch 0,
    .receive 0 (.delivery (.delivered ⟨200, [], []⟩)) .epoch none, .mirror 0]).2

theorem settling_rules_repeat_settled :
    applyRules .settled Rule.settling .replaceExisting = .ok .settled ∧
      sentBy 1 (World.run strokes World.settled [.advance 1, .dispatch 1]).2.entries ≠ [] ∧
      ∀ x ∈ sentBy 1 (World.run strokes World.settled [.advance 1, .dispatch 1]).2.entries,
        x.2 = .ofRecord .settled := by
  have h : applyRules .repeating Rule.settling .replaceExisting = .ok .settled := by decide +kernel
  have hreach : World.settling.Reachable strokes :=
    World.Reachable.run (.start _ (fun _ => 1) [.append Record.repeating.toDraft none] rfl) _
  have hfinds : World.settling.Finds 0 1 .repeating Rule.settling .replaceExisting :=
    ⟨{ ResendJob.once 1 with rules := Rule.settling }, true, rfl, rfl, rfl, rfl, rfl⟩
  let resent : Record := { Record.settled with
    id := 2, status := some 200, responseBody := some [], timestamp := .epoch,
    origin := .resend 1 "" 1 }
  have hstored : (1, resent) ∈ storedBy 0 World.settled.entries := by decide +kernel
  have hcall : World.settled.calls 1 = World.settling.calls 1 :=
    (World.settling.run_apart strokes 1 _ (by decide)).2
  have hfinds' : World.settled.Finds 1 2 resent Rule.settling .replaceExisting :=
    ⟨{ ResendJob.once 2 with rules := Rule.settling }, true, hcall, rfl, rfl, rfl,
      by decide +kernel⟩
  have hsize : World.settled.coordinator.jobs.size = 1 := by decide +kernel
  obtain ⟨htwice, hagain⟩ := settling_rules_repeat .repeating .settled .replaceExisting
    Rule.settling h Rule.settling_settles
  obtain ⟨-, -, hsent⟩ := hagain strokes World.settling 0 hreach hfinds _ 1 resent hstored 1 resent
    hfinds' [.dispatch 1]
  change ∀ x ∈ sentBy World.settled.coordinator.jobs.size
    (World.run strokes World.settled [.advance 1, .dispatch 1]).2.entries, _ at hsent
  rw [hsize] at hsent
  exact ⟨htwice, by decide +kernel, hsent⟩

end PacketReplay
