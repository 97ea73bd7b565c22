import Mathlib
import PacketReplay.Proofs.BroughtHeaders
import PacketReplay.Proofs.HeaderOps

set_option autoImplicit false

namespace PacketReplay

namespace Hop

/-- The response that a server's reply to a hop begins with. -/
def begun? (h : Hop) : ServerReply → Option StartedResponse
  | .bytes b => StartedResponse.ofBytes? h.method b
  | .silence => none

def Leads (url : String) (followed : Nat) (h : Hop) (reply : ServerReply) (next : Hop) : Prop :=
  ∃ started, h.begun? reply = some started ∧
    Redirection.ofHead url followed h started.head = .go next

def turningStatuses : List Nat :=
  [301, 302, 303, 307, 308]

/-- A reply to a hop is a whole response that leads nowhere. -/
def Answered (url : String) (followed : Nat) (h : Hop) (reply : ServerReply)
    (response : Response) : Prop :=
  ∃ started, h.begun? reply = some started ∧
    Redirection.ofHead url followed h started.head = .stay ∧ started.finish? = some response

def nextMethod (h : Hop) (status : Nat) : Method :=
  if status = 303 then if h.method = .head then .head else .get
  else if (status = 301 ∨ status = 302) ∧ h.method = .post then .get
  else h.method

theorem nextMethod_cases (h : Hop) (status : Nat) :
    h.nextMethod status = h.method ∨ h.nextMethod status = .get := by
  unfold nextMethod
  split
  · split
    · rename_i hhead
      exact .inl hhead.symm
    · exact .inr rfl
  · split
    · exact .inr rfl
    · exact .inl rfl

/-- A reply to a hop has a status that sends it elsewhere and says where; the status decides what
the method becomes. -/
def Turned (h : Hop) (reply : ServerReply) (next : Hop) : Prop :=
  ∃ started, h.begun? reply = some started ∧ started.head.status ∈ turningStatuses ∧
    (∃ location, started.head.headers.value? "location" = some location) ∧
    next.method = h.nextMethod started.head.status

theorem turned?_eq_some (h turned : Hop) (status : Nat) (ht : h.turned? status = some turned) :
    status ∈ turningStatuses ∧ turned.method = h.nextMethod status := by
  unfold turned? at ht
  split at ht
  · cases ht
    by_cases hp : h.method = .post
    · simp [turningStatuses, nextMethod, emptied, hp]
    · simp [turningStatuses, nextMethod, hp]
  · cases ht
    by_cases hp : h.method = .post
    · simp [turningStatuses, nextMethod, emptied, hp]
    · simp [turningStatuses, nextMethod, hp]
  · cases ht
    simp [turningStatuses, nextMethod, emptied]
  · cases ht
    simp [turningStatuses, nextMethod]
  · cases ht
    simp [turningStatuses, nextMethod]
  · cases ht

end Hop

theorem Redirection.of_go (url : String) (followed : Nat) (h : Hop) (head : ResponseHead)
    (next : Hop) (hgo : Redirection.ofHead url followed h head = .go next) :
    followed < maxRedirects ∧ head.status ∈ Hop.turningStatuses ∧
      (∃ location, head.headers.value? "location" = some location) ∧
      next.method = h.nextMethod head.status := by
  unfold ofHead at hgo
  split at hgo
  · rename_i turned d hturned hd
    obtain ⟨hstatus, hmethod⟩ := h.turned?_eq_some turned head.status hturned
    obtain ⟨location, hlocation, -⟩ := Option.bind_eq_some_iff.mp hd
    split at hgo
    · split at hgo
      · cases hgo
      · rename_i hfew
        split at hgo
        · cases hgo
        · cases hgo
          exact ⟨Nat.lt_of_not_le hfew, hstatus, ⟨location, hlocation⟩, hmethod⟩
    · cases hgo
  · cases hgo

theorem Redirection.eq_stay (url : String) (fuel followed : Nat) (h : Hop) (head : ResponseHead)
    (hfuel : fuel + followed = maxRedirects + 1)
    (hrefuse : ∀ fault, Redirection.ofHead url followed h head ≠ .refuse fault)
    (hgo : ∀ n next, fuel = n + 1 → Redirection.ofHead url followed h head ≠ .go next) :
    Redirection.ofHead url followed h head = .stay := by
  cases hr : Redirection.ofHead url followed h head with
  | stay => rfl
  | refuse fault => exact absurd hr (hrefuse fault)
  | go next =>
    obtain ⟨hfew, -⟩ := of_go url followed h head next hr
    cases fuel with
    | zero => omega
    | succ n => exact absurd hr (hgo n next rfl)

section

variable {url : String} {followed : Nat} {h : Hop} {reply : ServerReply}

theorem Hop.Leads.turned {next : Hop} (hleads : h.Leads url followed reply next) :
    followed < maxRedirects ∧ h.Turned reply next := by
  obtain ⟨started, hbegun, hgo⟩ := hleads
  obtain ⟨hfew, hstatus, hlocation, hmethod⟩ :=
    Redirection.of_go url followed h started.head next hgo
  exact ⟨hfew, started, hbegun, hstatus, hlocation, hmethod⟩

theorem Hop.not_leads_of_nothing (hbegun : h.begun? reply = none) (next : Hop) :
    ¬ h.Leads url followed reply next := by
  rintro ⟨started, hstarted, -⟩
  rw [hbegun] at hstarted
  cases hstarted

theorem Hop.not_leads_of_begun {started : StartedResponse} (hbegun : h.begun? reply = some started)
    (hhead : ∀ next, Redirection.ofHead url followed h started.head ≠ .go next) (next : Hop) :
    ¬ h.Leads url followed reply next := by
  rintro ⟨other, hother, hgo⟩
  rw [hbegun] at hother
  cases hother
  exact hhead next hgo

end

/-- The hops that a server sees of a send, from one on, and what the send comes to: a hop is not
seen there, or it is the last one, or the server's reply to it leads on to the next. The replies are
counted from the first hop on. -/
inductive Trail (s : HttpServer) (url : String) :
    Nat → Hop → List Hop → Except SendFault Response → Prop where
  | unseen (followed : Nat) (h : Hop) (fault : SendFault) : Trail s url followed h [] (.error fault)
  | failed (followed : Nat) (h : Hop) (fault : SendFault)
    (hlast : ∀ next, ¬ h.Leads url followed (s.reply followed) next) :
    Trail s url followed h [h] (.error fault)
  | answered (followed : Nat) (h : Hop) (response : Response)
    (hanswer : h.Answered url followed (s.reply followed) response) :
    Trail s url followed h [h] (.ok response)
  | led (followed : Nat) (h next : Hop) (hops : List Hop) (outcome : Except SendFault Response)
    (hleads : h.Leads url followed (s.reply followed) next)
    (hrest : Trail s url (followed + 1) next hops outcome) :
    Trail s url followed h (h :: hops) outcome

/-- The hops of a send form a trail. The steps left never run out before the redirections do, so
what stops a send is always a reply or the limit of redirections. -/
theorem follow_trail (s : HttpServer) (url : String) (fuel followed : Nat) (h : Hop)
    (received : List HttpRequest) (hfuel : fuel + followed = maxRedirects + 1)
    (hreceived : received.length = followed) :
    ∃ hops, (follow (some s) url fuel followed h received).received =
        received.reverse ++ hops.map Hop.request ∧
      Trail s url followed h hops (follow (some s) url fuel followed h received).response := by
  have hserver : ∀ (h : Hop) (t : HttpServer), Option.filter h.reaches (some s) = some t →
      s = t := fun h t ht => Option.some.inj (Option.filter_eq_some_iff.mp ht).1
  fun_induction follow (some s) url fuel followed h received with
  | case1 fuel followed h received =>
    exact ⟨[], (List.append_nil _).symm, .unseen followed h _⟩
  | case2 fuel followed h received t ht now hreply =>
    obtain rfl := hserver h t ht
    rw [hreceived] at hreply
    refine ⟨[h], List.reverse_cons, .failed followed h _ ?_⟩
    exact Hop.not_leads_of_nothing (by rw [hreply]; rfl)
  | case3 fuel followed h received t ht now b hreply hbegun =>
    obtain rfl := hserver h t ht
    rw [hreceived] at hreply
    refine ⟨[h], List.reverse_cons, .failed followed h _ ?_⟩
    exact Hop.not_leads_of_nothing (by rw [hreply]; exact hbegun)
  | case4 followed h received t ht now b hreply started hbegun fuel next hgo ih =>
    obtain rfl := hserver h t ht
    rw [hreceived] at hreply
    obtain ⟨hops, hseen, htrail⟩ := ih (by omega) (by rw [List.length_cons, hreceived])
    refine ⟨h :: hops, ?_, .led followed h next hops _ ?_ htrail⟩
    · rw [hseen, List.reverse_cons, List.append_assoc]
      rfl
    · exact ⟨started, by rw [hreply]; exact hbegun, hgo⟩
  | case5 fuel followed h received t ht now b hreply started hbegun fault hrefuse =>
    obtain rfl := hserver h t ht
    rw [hreceived] at hreply
    have hstarted : h.begun? (s.reply followed) = some started := by rw [hreply]; exact hbegun
    refine ⟨[h], List.reverse_cons, .failed followed h _ (Hop.not_leads_of_begun hstarted ?_)⟩
    intro next hgo
    rw [hrefuse] at hgo
    cases hgo
  | case6 fuel followed h received t ht now b hreply started hbegun response hfinish hrefuse hgo =>
    obtain rfl := hserver h t ht
    rw [hreceived] at hreply
    have hstay := Redirection.eq_stay url fuel followed h started.head hfuel hrefuse hgo
    refine ⟨[h], List.reverse_cons, .answered followed h response ⟨started, ?_, hstay, hfinish⟩⟩
    rw [hreply]
    exact hbegun
  | case7 fuel followed h received t ht now b hreply started hbegun hfinish hrefuse hgo =>
    obtain rfl := hserver h t ht
    rw [hreceived] at hreply
    have hstay := Redirection.eq_stay url fuel followed h started.head hfuel hrefuse hgo
    have hstarted : h.begun? (s.reply followed) = some started := by rw [hreply]; exact hbegun
    refine ⟨[h], List.reverse_cons, .failed followed h _ (Hop.not_leads_of_begun hstarted ?_)⟩
    intro next hgo
    rw [hstay] at hgo
    cases hgo

namespace Trail

variable {s : HttpServer} {url : String} {followed : Nat} {h : Hop} {hops : List Hop}
  {outcome : Except SendFault Response}

theorem length_le (ht : Trail s url followed h hops outcome) (hfew : followed ≤ maxRedirects) :
    hops.length + followed ≤ maxRedirects + 1 := by
  induction ht with
  | unseen => rw [List.length_nil]; omega
  | failed | answered => rw [List.length_singleton]; omega
  | led followed h next hops outcome hleads _ ih =>
    have hrest := ih hleads.turned.1
    rw [List.length_cons]
    omega

theorem head (ht : Trail s url followed h hops outcome) : ∀ first ∈ hops.head?, first = h := by
  cases ht with
  | unseen => exact fun _ hfirst => nomatch hfirst
  | failed | answered | led => exact fun _ hfirst => (Option.some.inj hfirst).symm

/-- Every hop but the first is where the server's reply to the one before leads. -/
theorem leads (ht : Trail s url followed h hops outcome) (i : Nat) (a b : Hop)
    (ha : hops[i]? = some a) (hb : hops[i + 1]? = some b) :
    a.Leads url (followed + i) (s.reply (followed + i)) b := by
  induction ht generalizing i with
  | unseen => cases ha
  | failed | answered => cases hb
  | led followed h next hops outcome hleads hrest ih =>
    cases i with
    | zero =>
      cases ha
      have hnext := hrest.head b (by rw [List.head?_eq_getElem?]; exact hb)
      rw [hnext]
      exact hleads
    | succ i =>
      have hlater := ih i ha hb
      rwa [Nat.add_assoc, Nat.add_comm 1 i] at hlater

theorem answered_last {response : Response}
    (ht : Trail s url followed h hops (.ok response)) :
    ∃ front last, hops = front ++ [last] ∧
      last.Answered url (followed + front.length) (s.reply (followed + front.length)) response := by
  generalize hout : (.ok response : Except SendFault Response) = outcome at ht
  induction ht with
  | unseen | failed => cases hout
  | answered followed h other hanswer =>
    cases hout
    exact ⟨[], h, rfl, hanswer⟩
  | led followed h next hops outcome _ _ ih =>
    obtain ⟨front, last, rfl, hanswer⟩ := ih hout
    refine ⟨h :: front, last, rfl, ?_⟩
    rwa [Nat.add_assoc, Nat.add_comm 1 front.length] at hanswer

theorem single (ht : Trail s url followed h hops outcome)
    (hstay : ∀ next, ¬ h.Leads url followed (s.reply followed) next) : hops = [] ∨ hops = [h] := by
  cases ht with
  | unseen => exact .inl rfl
  | failed | answered => exact .inr rfl
  | led _ _ next _ _ hleads => exact absurd hleads (hstay next)

theorem method (ht : Trail s url followed h hops outcome) :
    ∀ hop ∈ hops, hop.method = h.method ∨ hop.method = .get := by
  induction ht with
  | unseen => exact fun _ hhop => nomatch hhop
  | failed followed h | answered followed h =>
    intro hop hhop
    rw [List.mem_singleton.mp hhop]
    exact .inl rfl
  | led followed h next hops outcome hleads _ ih =>
    obtain ⟨-, started, -, -, -, hturned⟩ := hleads.turned
    have hnext : next.method = h.method ∨ next.method = .get := by
      rw [hturned]
      exact h.nextMethod_cases started.head.status
    intro hop hhop
    rcases List.mem_cons.mp hhop with rfl | hlater
    · exact .inl rfl
    · rcases ih hop hlater with hsame | hget
      · rw [hsame]
        exact hnext
      · exact .inr hget

end Trail

theorem toLower_toLower (c : Char) : c.toLower.toLower = c.toLower := by
  simp only [Char.toLower]
  grind

theorem named_toLower (name value other : String) :
    Header.named other ⟨name.toLower, value⟩ = Header.named other ⟨name, value⟩ := by
  have hlower : name.toLower.toList.map Char.toLower = name.toList.map Char.toLower := by
    rw [String.toLower, String.toList_map, List.map_map]
    exact List.map_congr_left fun c _ => toLower_toLower c
  rw [Header.named, sameIgnoringCase, hlower]
  rfl

theorem isRecomputed_of_sent (hs : Headers) (line : Header) (hline : line ∈ sentHeaders hs) :
    line.isRecomputed = false := by
  obtain ⟨sent, hsent, rfl⟩ := List.mem_map.mp hline
  have hkept := List.mem_of_mem_filter hsent
  rw [forwardedHeaders_eq] at hkept
  have hfresh : sent.isRecomputed = false := by simpa using (List.mem_filter.mp hkept).2
  simp only [Header.isRecomputed, named_toLower]
  exact hfresh

theorem splitCredentials_eq (u : Url) :
    (splitCredentials u).1.target = u.target ∧ (splitCredentials u).1.host = u.host ∧
      (splitCredentials u).1.port = u.port ∧
      ∀ line ∈ (splitCredentials u).2, line.name = "authorization" := by
  cases hname : decodedText? u.username with
  | none =>
    rw [splitCredentials, hname]
    exact ⟨rfl, rfl, rfl, fun _ hline => nomatch hline⟩
  | some username =>
    rw [splitCredentials, hname]
    dsimp only
    generalize (if u.password = "" then none else decodedText? u.password) = password
    split
    · exact ⟨rfl, rfl, rfl, fun _ hline => nomatch hline⟩
    · refine ⟨rfl, rfl, rfl, fun line hline => ?_⟩
      rw [List.mem_singleton.mp hline]

/-- The first hop of a request to its URL. A user that the URL names is told in a header. -/
def OutboundRequest.firstHop (r : OutboundRequest) (u : Url) : Hop :=
  Hop.first r (splitCredentials u).1 (splitCredentials u).2

structure HttpRequest.AsksFor (sent : HttpRequest) (r : OutboundRequest) (u : Url) : Prop where
  method : sent.method = r.method
  target : sent.target = u.target
  host : ∀ host, u.host = some host →
    sent.headers.values "host" = [Url.writeHostPort host u.port]
  body : sent.body = r.body.getD []

/-- A path goes nowhere without a host. -/
def OutboundRequest.LacksHost (r : OutboundRequest) : Prop :=
  r.url.startsWith "/" = true ∧ ∀ host, r.headers.value? "host" = some host → trim host = ""

namespace OutboundRequest

variable (r : OutboundRequest) (u : Url)

theorem values_host_firstHop : (r.firstHop u).headers.values "host" = [] := by
  obtain ⟨-, -, -, hcredentials⟩ := splitCredentials_eq u
  have hnone : ∀ line ∈ (splitCredentials u).2 ++ sentHeaders r.headers,
      line.named "host" = false := by
    intro line hline
    rcases List.mem_append.mp hline with hc | hs
    · rw [Header.named, hcredentials line hc]
      rfl
    · have hfresh := isRecomputed_of_sent r.headers line hs
      rw [Header.isRecomputed, List.any_eq_false] at hfresh
      simpa using hfresh "host" List.mem_cons_self
  rw [Headers.values, List.map_eq_nil_iff, List.filter_eq_nil_iff]
  intro line hline
  unfold firstHop Hop.first at hline
  dsimp only at hline
  split at hline
  · rw [hnone line hline]
    exact Bool.false_ne_true
  · rcases List.mem_append.mp hline with hold | hnew
    · rw [hnone line hold]
      exact Bool.false_ne_true
    · rw [List.mem_singleton.mp hnew]
      decide

theorem asksFor_firstHop : (r.firstHop u).request.AsksFor r u where
  method := rfl
  target := (splitCredentials_eq u).1
  body := rfl
  host := by
    intro host hhost
    obtain ⟨-, hsame, hport, -⟩ := splitCredentials_eq u
    have hauthority : (r.firstHop u).authority = Url.writeHostPort host u.port := by
      simp only [firstHop, Hop.first, hsame, hhost, hport]
    have hadd : ((r.firstHop u).headers.add "host" (r.firstHop u).authority).values "host" =
        [Url.writeHostPort host u.port] := by
      rw [Headers.values_add, values_host_firstHop, hauthority, List.nil_append]
    unfold Hop.request
    dsimp only
    split
    · exact hadd
    · rw [← hadd, Headers.add, Headers.values, List.filter_append]
      have hother : Header.named "host" ⟨"content-length", toString (r.firstHop u).body.length⟩ =
          false := by
        change sameIgnoringCase "content-length" "host" = false
        decide
      rw [List.filter_cons_of_neg (by rw [hother]; exact Bool.false_ne_true), List.filter_nil,
        List.append_nil]
      rfl

theorem resolvedUrl_of_lacksHost (h : r.LacksHost) : r.resolvedUrl = .error (.noHost r.url) := by
  obtain ⟨hpath, hblank⟩ := h
  have habsolute : r.absoluteUrl = .error (.noHost r.url) := by
    rw [absoluteUrl, if_pos hpath]
    cases hv : r.headers.value? "host" with
    | none => rfl
    | some host =>
      simp [hblank host hv]
  rw [resolvedUrl, habsolute]
  rfl

theorem resolvedUrl_of_unparsable (text : String) (fault : UrlFault)
    (habsolute : r.absoluteUrl = .ok text) (hparse : Url.parse text = .error fault) :
    r.resolvedUrl = .error (.badUrl text fault) := by
  simp only [resolvedUrl, habsolute, bind, Except.bind, hparse]
  rfl

theorem send_of_unresolved (server : Option HttpServer) (fault : SendFault)
    (h : r.resolvedUrl = .error fault) : r.send server = ⟨.error fault, []⟩ := by
  rw [send, h]

end OutboundRequest

/-- What a server sees of a send from a first hop on, and what the send comes to: the first request,
one more for each reply that leads on, ten more at most, and the response to the last of them. -/
structure SendReport.Follows (report : SendReport) (s : HttpServer) (url : String) (first : Hop)
    (hops : List Hop) : Prop where
  received : report.received = hops.map Hop.request
  length_le : hops.length ≤ maxRedirects + 1
  head : ∀ h ∈ hops.head?, h = first
  leads : ∀ i a b, hops[i]? = some a → hops[i + 1]? = some b →
    a.Leads url i (s.reply i) b ∧ a.Turned (s.reply i) b
  answered : ∀ response, report.response = .ok response → ∃ front last,
    hops = front ++ [last] ∧ last.Answered url front.length (s.reply front.length) response
  method : ∀ h ∈ hops, h.method = first.method ∨ h.method = .get

structure SendReport.Single (report : SendReport) (s : HttpServer) (url : String) (first : Hop) :
    Prop where
  length_le : report.received.length ≤ 1
  received : ∀ sent ∈ report.received, sent = first.request
  answered : ∀ response, report.response = .ok response → first.Answered url 0 (s.reply 0) response

namespace OutboundRequest

variable (r : OutboundRequest) (u : Url)

/-- The URL as it is told in faults: without the user. -/
def askedUrl (u : Url) : String :=
  (splitCredentials u).1.write

theorem send_trail (s : HttpServer) (hu : r.resolvedUrl = .ok u) :
    ∃ hops, (r.send (some s)).received = hops.map Hop.request ∧
      Trail s (askedUrl u) 0 (r.firstHop u) hops (r.send (some s)).response := by
  have hsend : r.send (some s) =
      if isRequestable (splitCredentials u).1 then
        follow (some s) (askedUrl u) (maxRedirects + 1) 0 (r.firstHop u) []
      else ⟨.error (.unsupported (askedUrl u)), []⟩ := by
    rw [send, hu]
    rfl
  rw [hsend]
  split
  · exact follow_trail s (askedUrl u) (maxRedirects + 1) 0 (r.firstHop u) [] rfl rfl
  · exact ⟨[], rfl, .unseen 0 (r.firstHop u) _⟩

/-- The server sees a send unless requests to the URL cannot be made or go elsewhere. -/
theorem received_eq_nil_iff (s : HttpServer) (hu : r.resolvedUrl = .ok u) :
    (r.send (some s)).received = [] ↔
      isRequestable (splitCredentials u).1 = false ∨ (r.firstHop u).reaches s = false := by
  rw [← List.head?_eq_none_iff, r.head_received (some s) u hu]
  change (if isRequestable (splitCredentials u).1 then
    (Option.filter (r.firstHop u).reaches (some s)).map fun _ => (r.firstHop u).request
    else none) = none ↔ _
  cases isRequestable (splitCredentials u).1 with
  | false => simp
  | true => cases hr : (r.firstHop u).reaches s <;> simp [Option.filter, hr]

end OutboundRequest

section

variable {report : SendReport} {s : HttpServer} {url : String} {first : Hop} {hops : List Hop}

theorem SendReport.follows_of_trail (hreceived : report.received = hops.map Hop.request)
    (ht : Trail s url 0 first hops report.response) : report.Follows s url first hops where
  received := hreceived
  length_le := ht.length_le (Nat.zero_le _)
  head := ht.head
  leads := fun i a b ha hb => by
    have hleads := ht.leads i a b ha hb
    rw [Nat.zero_add] at hleads
    exact ⟨hleads, hleads.turned.2⟩
  answered := fun response hresponse => by
    rw [hresponse] at ht
    simpa only [Nat.zero_add] using ht.answered_last
  method := ht.method

theorem SendReport.single_of_trail (hreceived : report.received = hops.map Hop.request)
    (ht : Trail s url 0 first hops report.response)
    (hstay : ∀ next, ¬ first.Leads url 0 (s.reply 0) next) : report.Single s url first := by
  have hfew := ht.single hstay
  refine ⟨?_, ?_, fun response hresponse => ?_⟩
  · rw [hreceived, List.length_map]
    rcases hfew with rfl | rfl
    · exact Nat.zero_le 1
    · exact Nat.le_refl 1
  · rw [hreceived]
    rcases hfew with rfl | rfl
    · exact fun _ hsent => nomatch hsent
    · exact fun _ hsent => List.mem_singleton.mp hsent
  · rw [hresponse] at ht
    obtain ⟨front, last, hhops, hanswer⟩ := ht.answered_last
    rcases hfew with rfl | rfl
    · exact absurd hhops.symm (by simp)
    · obtain ⟨rfl, hlast⟩ := List.append_eq_singleton_iff.mp hhops.symm |>.resolve_right (by simp)
      cases hlast
      exact hanswer

end

def OutboundRequest.posting : OutboundRequest :=
  ⟨.post, "http://[::1]:81/one", [], some (textBytes "pb")⟩

def ServerReply.moved : ServerReply :=
  .bytes (textBytes "HTTP/1.1 302 -\r\nlocation: /two\r\n\r\nmoved")

def ServerReply.shown : ServerReply :=
  .bytes (textBytes "HTTP/1.1 200 -\r\n\r\nend")

/-- A server that sends its first visitor elsewhere and answers the next. -/
def HttpServer.moving : HttpServer where
  authority := "[::1]:81"
  reply
    | 0 => .moved
    | _ => .shown

def HttpServer.staying : HttpServer :=
  ⟨"[::1]:81", fun _ => .shown⟩

def Hop.posted : Hop :=
  ⟨.post, "http://[::1]:81/one", "http", "[::1]:81", "/one", [⟨"accept", "*/*"⟩], textBytes "pb"⟩

def Hop.fetched : Hop :=
  ⟨.get, "http://[::1]:81/two", "http", "[::1]:81", "/two",
    [⟨"accept", "*/*"⟩, ⟨"referer", "http://[::1]:81/one"⟩], []⟩

def StartedResponse.moved : StartedResponse :=
  ⟨⟨302, false, [⟨"location", "/two"⟩]⟩, .untilClose, textBytes "moved"⟩

def StartedResponse.shown : StartedResponse :=
  ⟨⟨200, false, []⟩, .untilClose, textBytes "end"⟩

theorem Hop.begun?_example : Hop.posted.begun? .moved = some .moved ∧
    Hop.posted.begun? .shown = some .shown ∧ Hop.fetched.begun? .shown = some .shown := by
  decide +kernel

def Destination.moved : Destination :=
  ⟨⟨some "http", some "[::1]:81", "/two", none, none⟩, "http://[::1]:81/two"⟩

theorem destination?_moved :
    destination? "http://[::1]:81/one" StartedResponse.moved.head = some .moved := by
  let base : UriReference := ⟨some "http", some "[::1]:81", "/one", none, none⟩
  obtain ⟨hlocation, hbase, hthere, hread⟩ :
      StartedResponse.moved.head.headers.value? "location" = some "/two" ∧
      UriReference.read? "http://[::1]:81/one" = some base ∧
      Destination.ofReference? Destination.moved.reference = some .moved ∧
      UriReference.read? "/two" = some ⟨none, none, "/two", none, none⟩ := by
    decide +kernel +revert
  have hresolve : UriReference.resolve base ⟨none, none, "/two", none, none⟩ =
      Destination.moved.reference := by cbv
  rw [destination?, hlocation]
  simp only [Option.bind_eq_bind, Option.bind_some, hread, hbase, hresolve]
  exact hthere

def Url.one : Url :=
  ⟨"http", "", "", some (.ipv6 [0, 0, 0, 0, 0, 0, 0, 1]), some 81, .segments ["one"], none, none⟩

theorem ofHead_moved :
    Redirection.ofHead "http://[::1]:81/one" 0 .posted StartedResponse.moved.head =
      .go .fetched := by
  let two : Url := { Url.one with path := .segments ["two"] }
  obtain ⟨hone, htwo, hfollowing, hauthority, htarget, hheaders⟩ :
      Url.parse "http://[::1]:81/one" = .ok .one ∧ Url.parse Destination.moved.text = .ok two ∧
        followingHeaders [⟨"accept", "*/*"⟩] .one two = Hop.fetched.headers ∧
        Destination.moved.authority = "[::1]:81" ∧ Destination.moved.target = "/two" ∧
        (Hop.posted.emptied .get).headers = [⟨"accept", "*/*"⟩] := by decide +kernel +revert
  have hturned : Hop.posted.turned? StartedResponse.moved.head.status =
      some (Hop.posted.emptied .get) := rfl
  have huri : Hop.posted.uri = "http://[::1]:81/one" := rfl
  have hscheme : two.scheme = "http" := rfl
  rw [Redirection.ofHead, hturned, huri, destination?_moved]
  simp only [hone, htwo, hheaders, hfollowing, hauthority, htarget, hscheme]
  rfl

theorem OutboundRequest.resolvedUrl_posting : OutboundRequest.posting.resolvedUrl = .ok .one ∧
    OutboundRequest.askedUrl .one = "http://[::1]:81/one" ∧
    OutboundRequest.posting.firstHop .one = .posted := by
  decide +kernel

theorem OutboundRequest.send_posting : OutboundRequest.posting.send (some .moving) =
    ⟨.ok ⟨200, [], textBytes "end"⟩, [Hop.posted.request, Hop.fetched.request]⟩ := by
  obtain ⟨hurl, hasked, hfirst⟩ := resolvedUrl_posting
  have hrequestable : isRequestable (splitCredentials .one).1 = true := by decide +kernel
  have hsend : OutboundRequest.posting.send (some .moving) =
      follow (some .moving) "http://[::1]:81/one" (maxRedirects + 1) 0 .posted [] := by
    rw [send, hurl]
    change (if isRequestable (splitCredentials .one).1 then
      follow _ (askedUrl .one) _ 0 (posting.firstHop .one) [] else _) = _
    rw [if_pos hrequestable, hasked, hfirst]
  have hreaches : ∀ h : Hop, h.scheme = "http" → h.authority = "[::1]:81" →
      (some HttpServer.moving).filter h.reaches = some .moving := by
    intro h hscheme hauthority
    have hcolon : ':' ∈ h.authority.toList := by rw [hauthority]; decide
    refine Option.filter_some_pos ?_
    rw [Hop.reaches, String.contains_char_eq, if_pos (decide_eq_true hcolon), hscheme, hauthority]
    rfl
  -- The two turns of the server, each with the bytes written out for the match on them.
  have hmoved : HttpServer.moving.reply 0 = .bytes
      (textBytes "HTTP/1.1 302 -\r\nlocation: /two\r\n\r\nmoved") := rfl
  have hshown : HttpServer.moving.reply 1 = .bytes (textBytes "HTTP/1.1 200 -\r\n\r\nend") := rfl
  obtain ⟨hfirstBegun, -, hsecondBegun⟩ := Hop.begun?_example
  simp only [Hop.begun?, ServerReply.moved, ServerReply.shown] at hfirstBegun hsecondBegun
  have hstay : Redirection.ofHead "http://[::1]:81/one" 1 .fetched StartedResponse.shown.head =
      .stay := rfl
  have hfinish : StartedResponse.shown.finish? = some ⟨200, [], textBytes "end"⟩ := by
    decide +kernel
  rw [hsend, follow, hreaches .posted rfl rfl]
  simp only [List.length_nil, hmoved, hfirstBegun, ofHead_moved]
  rw [follow, hreaches .fetched rfl rfl]
  simp only [List.length_singleton, hshown, hsecondBegun, Nat.zero_add, hstay, hfinish]
  rfl

/-- **A send is one request unless the reply sends it elsewhere.** The URL of a path without a host
and of a text that is no URL is not resolved; then nothing is sent, and the send fails. Otherwise
the request that is made first has the method, the body, and the path and host of the resolved URL
of the request that is sent. The server sees it unless requests to the URL cannot be made or go to
another server. If the server's reply to it leads nowhere, no other request is made, and a response
that is delivered is that reply. Whenever a reply leads on, which takes one of five statuses and a
location, the server sees one more request, ten at most; a response that is delivered is the reply
to the last of them. -/
theorem sends_follow_redirections (s : HttpServer) (r : OutboundRequest)
    (hmethod : r.method ≠ .connect) :
    (r.LacksHost → r.resolvedUrl = .error (.noHost r.url)) ∧
    (∀ text fault, r.absoluteUrl = .ok text → Url.parse text = .error fault →
      r.resolvedUrl = .error (.badUrl text fault)) ∧
    (∀ fault, r.resolvedUrl = .error fault →
      (r.send (some s)).received = [] ∧ (r.send (some s)).delivery = .failed fault.message) ∧
    ∀ u, r.resolvedUrl = .ok u →
      (r.firstHop u).request.AsksFor r u ∧
      ((r.send (some s)).received = [] ↔
        isRequestable (splitCredentials u).1 = false ∨ (r.firstHop u).reaches s = false) ∧
      (∃ hops, (r.send (some s)).Follows s (OutboundRequest.askedUrl u) (r.firstHop u) hops) ∧
      (∀ sent ∈ (r.send (some s)).received, sent.method ≠ .connect) ∧
      ((∀ next, ¬ (r.firstHop u).Leads (OutboundRequest.askedUrl u) 0 (s.reply 0) next) →
        (r.send (some s)).Single s (OutboundRequest.askedUrl u) (r.firstHop u)) := by
  refine ⟨r.resolvedUrl_of_lacksHost, r.resolvedUrl_of_unparsable, ?_, ?_⟩
  · intro fault hfault
    rw [r.send_of_unresolved (some s) fault hfault]
    exact ⟨rfl, rfl⟩
  · intro u hu
    obtain ⟨hops, hreceived, htrail⟩ := r.send_trail u s hu
    have hfollows := SendReport.follows_of_trail hreceived htrail
    refine ⟨r.asksFor_firstHop u, r.received_eq_nil_iff u s hu, ⟨hops, hfollows⟩, ?_,
      SendReport.single_of_trail hreceived htrail⟩
    intro sent hsent
    rw [hreceived] at hsent
    obtain ⟨hop, hhop, rfl⟩ := List.mem_map.mp hsent
    rcases hfollows.method hop hhop with hsame | hget
    · exact fun hconnect => hmethod (hsame.symm.trans hconnect)
    · intro hconnect
      rw [show hop.request.method = hop.method from rfl, hget] at hconnect
      cases hconnect

theorem sends_follow_redirections_posting :
    OutboundRequest.posting.method ≠ .connect ∧
    (∃ hops, (OutboundRequest.posting.send (some .moving)).Follows .moving "http://[::1]:81/one"
      .posted hops ∧ hops.length = 2) ∧
    (OutboundRequest.posting.send (some .staying)).Single .staying "http://[::1]:81/one"
      .posted := by
  have hmethod : OutboundRequest.posting.method ≠ .connect := by decide
  obtain ⟨hurl, hasked, hfirst⟩ := OutboundRequest.resolvedUrl_posting
  obtain ⟨-, -, -, hmoving⟩ := sends_follow_redirections .moving .posting hmethod
  obtain ⟨-, -, -, hstaying⟩ := sends_follow_redirections .staying .posting hmethod
  obtain ⟨-, -, ⟨hops, hfollows⟩, -, -⟩ := hmoving .one hurl
  obtain ⟨-, -, -, -, hsingle⟩ := hstaying .one hurl
  rw [hasked, hfirst] at hfollows hsingle
  refine ⟨hmethod, ⟨hops, hfollows, ?_⟩, hsingle ?_⟩
  · rw [← List.length_map (f := Hop.request), ← hfollows.received, OutboundRequest.send_posting]
    rfl
  · refine Hop.not_leads_of_begun Hop.begun?_example.2.1 fun next hgo => ?_
    cases hgo

/-- A send is not always one request, and what it delivers is not always the reply to that one. -/
theorem not_one_request :
    (¬ ∀ (s : HttpServer) (r : OutboundRequest), r.method ≠ .connect →
      (r.send (some s)).received.length ≤ 1) ∧
    ¬ ∀ (s : HttpServer) (r : OutboundRequest) (u : Url) (response : Response),
      r.method ≠ .connect → r.resolvedUrl = .ok u → (r.send (some s)).response = .ok response →
      ∃ started, (r.firstHop u).begun? (s.reply 0) = some started ∧
        started.finish? = some response := by
  have hmethod : OutboundRequest.posting.method ≠ .connect := by decide
  refine ⟨fun hall => ?_, fun hall => ?_⟩
  · have hfew := hall .moving .posting hmethod
    rw [OutboundRequest.send_posting] at hfew
    exact absurd hfew (by decide)
  · obtain ⟨hurl, -, hfirst⟩ := OutboundRequest.resolvedUrl_posting
    obtain ⟨started, hbegun, hfinish⟩ :=
      hall .moving .posting .one ⟨200, [], textBytes "end"⟩ hmethod hurl
        (by rw [OutboundRequest.send_posting])
    have hmoved : started = .moved := by
      rw [hfirst] at hbegun
      exact Option.some.inj (hbegun.symm.trans Hop.begun?_example.1)
    have hother : StartedResponse.moved.finish? ≠ some ⟨200, [], textBytes "end"⟩ := by
      decide +kernel
    rw [hmoved] at hfinish
    exact hother hfinish

end PacketReplay
