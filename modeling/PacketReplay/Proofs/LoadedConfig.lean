import Mathlib.Data.Fintype.EquivFin
import PacketReplay.Proofs.HeaderNames
import PacketReplay.Proofs.MemberMaps
import PacketReplay.Proofs.ToolAnswers

set_option autoImplicit false

namespace PacketReplay

theorem ListenPort.ofJson?_of_slots (p : ListenPort) (v : Json)
    (h : v.slots ["port", "protocol", "server", "enabled"] =
      some [.given (Json.ofNat p.port.toNat), .given (.str p.protocol), .ofOption Json.str p.server,
        .given (.bool p.enabled)]) : ofJson? v = some p := by
  have hserver := Json.Slot.optionalOrAbsent_ofOption Json.str Json.text? (fun _ => rfl) (by simp)
    p.server
  rw [ofJson?, h]
  simp only [Option.bind_eq_bind, Option.bind_some, Json.Slot.required, Json.Slot.withDefault,
    Json.uint16?_ofNat, Json.text?, Json.bool?, hserver]

theorem ListenPort.ofJson?_toJson (p : ListenPort) : ofJson? p.toJson = some p := by
  refine p.ofJson?_of_slots _ ?_
  obtain ⟨port, protocol, server, enabled⟩ := p
  cases server <;> rfl

theorem ListenPort.canonical_toJson (p : ListenPort) : p.toJson.canonical =
    .obj ([("enabled", .bool p.enabled), ("port", Json.ofNat p.port.toNat),
      ("protocol", .str p.protocol)] ++ Json.memberIfSome "server" Json.str p.server) := by
  obtain ⟨port, protocol, server, enabled⟩ := p
  cases server <;> rfl

theorem ListenPort.ofJson?_canonical (p : ListenPort) : ofJson? p.toJson.canonical = some p := by
  refine p.ofJson?_of_slots _ ?_
  rw [p.canonical_toJson]
  obtain ⟨port, protocol, server, enabled⟩ := p
  cases server <;> rfl

theorem TargetServer.ofJson?_of_slots (t : TargetServer) (v : Json)
    (h : v.slots ["name", "host", "port", "useSsl"] =
      some [.given (.str t.name), .given (.str t.host), .given (Json.ofNat t.port.toNat),
        .given (.bool t.useSsl)]) : ofJson? v = some t := by
  rw [ofJson?, h]
  simp only [Option.bind_eq_bind, Option.bind_some, Json.Slot.required, Json.Slot.withDefault,
    Json.uint16?_ofNat, Json.text?, Json.bool?]

theorem TargetServer.ofJson?_toJson (t : TargetServer) : ofJson? t.toJson = some t :=
  t.ofJson?_of_slots _ rfl

theorem TargetServer.canonical_toJson (t : TargetServer) : t.toJson.canonical =
    .obj [("host", .str t.host), ("name", .str t.name), ("port", Json.ofNat t.port.toNat),
      ("useSsl", .bool t.useSsl)] := rfl

theorem TargetServer.ofJson?_canonical (t : TargetServer) : ofJson? t.toJson.canonical = some t :=
  t.ofJson?_of_slots _ (by rw [t.canonical_toJson]; rfl)

namespace Json

/-- A list that a decoder reads from a value, whose entries name the fields in question. -/
structure Writes {α : Type} (decode : Json → Option α) (fields : List String) (l : List α)
    (v : Json) : Prop where
  decodes : list? decode v = some l
  complete : ∃ items, v = .arr items ∧
    ∀ item ∈ items, ∀ field ∈ fields, (item.get? field).isSome = true

theorem canonicalItems_eq_map (vs : List Json) : canonicalItems vs = vs.map canonical := by
  induction vs with
  | nil => rfl
  | cons v vs ih => rw [canonicalItems, ih, List.map_cons]

theorem writes_map {α : Type} (encode : α → Json) (decode : Json → Option α)
    (fields : List String) (hdecode : ∀ a, decode (encode a).canonical = some a)
    (hfields : ∀ a, ∀ field ∈ fields, ((encode a).canonical.get? field).isSome = true)
    (l : List α) : Writes decode fields l (arr (l.map encode)).canonical := by
  have hitems : (arr (l.map encode)).canonical = arr (l.map fun a => (encode a).canonical) := by
    rw [canonical, canonicalItems_eq_map, List.map_map]
    rfl
  rw [hitems]
  refine ⟨list?_map (fun a => (encode a).canonical) decode hdecode l, _, rfl, fun item hitem => ?_⟩
  obtain ⟨a, -, rfl⟩ := List.mem_map.mp hitem
  exact hfields a

end Json

theorem Snapshot.writes_ports (s : Snapshot) :
    Json.Writes ListenPort.ofJson? ["port", "protocol", "enabled"] s.listenPorts
      s.portsJson.canonical := by
  refine Json.writes_map ListenPort.toJson _ _ ListenPort.ofJson?_canonical ?_ s.listenPorts
  intro p
  rw [p.canonical_toJson]
  cases p.server <;> simp [Json.get?, Json.memberIfSome]

theorem Snapshot.writes_servers (s : Snapshot) :
    Json.Writes TargetServer.ofJson? ["name", "host", "port", "useSsl"] s.servers
      s.serversJson.canonical := by
  refine Json.writes_map TargetServer.toJson _ _ TargetServer.ofJson?_canonical ?_ s.servers
  intro t
  rw [t.canonical_toJson]
  simp [Json.get?]

namespace Json

theorem get?_eq_getLast? (members : List (String × Json)) (name : String) :
    (obj members).get? name = (occurrences name members).getLast? := by
  rw [get?, occurrences, List.getLast?_map, ← List.head?_reverse, ← List.filter_reverse,
    List.head?_filter]

/-- A field that is given at most once, with a default, is read from what its name stands for. -/
theorem memberSlot_withDefault {α : Type} (members : List (String × Json)) (name : String)
    (slot : Slot) (hslot : memberSlot members name = some slot) (decode : Json → Option α)
    (default : α) : slot.withDefault decode default =
      ((obj members).get? name).elim (some default) decode := by
  rw [get?_eq_getLast?]
  unfold memberSlot at hslot
  split at hslot
  · rename_i hnone
    cases hslot
    rw [hnone]
    rfl
  · rename_i v hv
    cases hslot
    rw [hv]
    rfl
  · cases hslot

theorem memberSlot_once (before after : List (String × Json)) (name : String) (v : Json)
    (hbefore : ∀ m ∈ before, m.1 ≠ name) (hafter : ∀ m ∈ after, m.1 ≠ name) :
    memberSlot (before ++ (name, v) :: after) name = some (.given v) := by
  have hnone (ms : List (String × Json)) (h : ∀ m ∈ ms, m.1 ≠ name) :
      ms.filter (fun m => m.1 == name) = [] := by
    rw [List.filter_eq_nil_iff]
    simpa using h
  have hone : (before ++ (name, v) :: after).filter (fun m => m.1 == name) = [(name, v)] := by
    rw [List.filter_append, List.filter_cons, hnone before hbefore, hnone after hafter]
    simp
  rw [memberSlot, occurrences, hone]
  rfl

end Json

namespace Snapshot

/-- The snapshot that an object comes to: the lists from the members of their names, empty when
there are none, and for every other name the last of its values. -/
structure TakenFrom (s : Snapshot) (v : Json) : Prop where
  object : ∃ members, v = .obj members
  listenPorts : (v.get? listenPortsName).elim (some []) (Json.list? ListenPort.ofJson?) =
    some s.listenPorts
  servers : (v.get? serversName).elim (some []) (Json.list? TargetServer.ofJson?) = some s.servers
  extra : ∀ name, s.extra.lookup name =
    if name = listenPortsName ∨ name = serversName then none
    else (v.get? name).map Json.canonical

structure Kept (s : Snapshot) : Prop where
  held : Json.Held s.extra
  other : ∀ m ∈ s.extra, m.1 ≠ listenPortsName ∧ m.1 ≠ serversName

theorem isExtra_iff (m : String × Json) :
    isExtra m = true ↔ m.1 ≠ listenPortsName ∧ m.1 ≠ serversName := by
  simp [isExtra]

theorem takenFrom_of_ofJson (v : Json) (s : Snapshot) (h : ofJson? v = some s) :
    s.TakenFrom v := by
  cases v with
  | obj members =>
    obtain ⟨ports, hports, h⟩ := Option.bind_eq_some_iff.mp h
    obtain ⟨servers, hservers, h⟩ := Option.bind_eq_some_iff.mp h
    dsimp only at h
    split at h
    · obtain ⟨listenPorts, hlisten, h⟩ := Option.bind_eq_some_iff.mp h
      obtain ⟨targets, htargets, h⟩ := Option.bind_eq_some_iff.mp h
      cases h
      rw [Json.memberSlot_withDefault members _ ports hports] at hlisten
      rw [Json.memberSlot_withDefault members _ servers hservers] at htargets
      refine ⟨⟨members, rfl⟩, hlisten, htargets, fun name => ?_⟩
      have hextra := Json.get?_filter members
        (fun name => name != listenPortsName && name != serversName) name
      change (Json.obj (members.filter isExtra)).get? name = _ at hextra
      rw [Json.lookup_canonicalMembers, hextra, List.lookup_nil, Option.or_none]
      by_cases hname : name = listenPortsName ∨ name = serversName
      · rcases hname with rfl | rfl <;> simp
      · obtain ⟨hlisten, hservers⟩ := not_or.mp hname
        simp [hlisten, hservers]
    · cases h
  | _ => cases h

theorem kept_of_ofText (text : String) (s : Snapshot) (h : ofText? text = some s) : s.Kept := by
  obtain ⟨v, -, hs⟩ := Option.bind_eq_some_iff.mp h
  have hheld := s.held_extra text h
  refine ⟨hheld, fun m hm => ?_⟩
  have hlookup := (takenFrom_of_ofJson v s hs).extra m.1
  rw [hheld.rising.lookup_of_mem m hm] at hlookup
  split_ifs at hlookup with hname
  exact not_or.mp hname

variable (s : Snapshot)

theorem legible_toJson (h : s.Kept) (hfloat : Json.hasFloatMembers s.extra = false) :
    Json.Legible 0 s.toJson :=
  ⟨by decide, s.legible_portsJson, s.legible_serversJson, (h.held.legible hfloat).2⟩

theorem ofJson?_toJson (h : s.Kept) : ofJson? s.toJson = some s := by
  have hne : listenPortsName ≠ serversName := by decide
  have hports : Json.memberSlot ((listenPortsName, s.portsJson) ::
      (serversName, s.serversJson) :: s.extra) listenPortsName = some (.given s.portsJson) :=
    Json.memberSlot_once [] _ _ _ (by simp)
      (List.forall_mem_cons.mpr ⟨hne.symm, fun m hm => (h.other m hm).1⟩)
  have hservers : Json.memberSlot ((listenPortsName, s.portsJson) ::
      (serversName, s.serversJson) :: s.extra) serversName = some (.given s.serversJson) :=
    Json.memberSlot_once [(listenPortsName, s.portsJson)] _ _ _ (by simpa using hne)
      fun m hm => (h.other m hm).2
  have hextra : (((listenPortsName, s.portsJson) :: (serversName, s.serversJson) ::
      s.extra).filter isExtra) = s.extra := by
    change s.extra.filter isExtra = s.extra
    exact List.filter_eq_self.mpr fun m hm => (isExtra_iff m).mpr (h.other m hm)
  have hlisten : Json.list? ListenPort.ofJson? s.portsJson = some s.listenPorts :=
    Json.list?_map ListenPort.toJson ListenPort.ofJson? ListenPort.ofJson?_toJson s.listenPorts
  have htargets : Json.list? TargetServer.ofJson? s.serversJson = some s.servers :=
    Json.list?_map TargetServer.toJson TargetServer.ofJson? TargetServer.ofJson?_toJson s.servers
  rw [toJson, ofJson?, hports, hservers]
  simp only [Option.bind_eq_bind, Option.bind_some, hextra, Json.Slot.withDefault, hlisten,
    htargets, h.held.canonicalMembers_eq_self]
  rw [if_pos ((Json.readableMembers_iff _).mpr h.held.readable)]

def Reloads : Prop :=
  ofText? s.toJson.compact = some s ∧ ofText? s.toJson.pretty = some s

theorem reloads (h : s.Kept) (hfloat : Json.hasFloatMembers s.extra = false) : s.Reloads := by
  have hlegible := s.legible_toJson h hfloat
  rw [Reloads, ofText?, ofText?, Json.parseText_compact _ hlegible,
    Json.parseText_pretty _ hlegible]
  exact ⟨s.ofJson?_toJson h, s.ofJson?_toJson h⟩

end Snapshot

namespace Registry

theorem find?_eq_lookup (r : Registry) (name : String) :
    r.find? name = r.categories.lookup name := by
  unfold find?
  induction r.categories with
  | nil => rfl
  | cons c cs ih =>
    rw [Json.lookup_cons, ← ih, List.find?_cons]
    by_cases hc : name = c.1
    · rw [if_pos hc, beq_iff_eq.mpr hc.symm]
      rfl
    · rw [if_neg hc, beq_eq_false_iff_ne.mpr (Ne.symm hc)]

theorem find?_ofSnapshot (s : Snapshot) (name : String) : (ofSnapshot s).find? name =
    if name = serversName then some s.serversJson.canonical
    else if name = listenPortsName then some s.portsJson.canonical
    else s.extra.lookup name := by
  rw [find?_eq_lookup, ofSnapshot, Json.lookup_insertMember, Json.lookup_insertMember]

/-- A registry of the parts of a snapshot, each under its own name. -/
structure Holds (r : Registry) (s : Snapshot) : Prop where
  sorted : r.names.Pairwise (· < ·)
  names : ∀ name, name ∈ r.names ↔
    name = listenPortsName ∨ name = serversName ∨ name ∈ s.extra.map Prod.fst
  extra : ∀ m ∈ s.extra, r.find? m.1 = some m.2
  listenPorts : ∃ v, r.find? listenPortsName = some v ∧
    Json.Writes ListenPort.ofJson? ["port", "protocol", "enabled"] s.listenPorts v
  servers : ∃ v, r.find? serversName = some v ∧
    Json.Writes TargetServer.ofJson? ["name", "host", "port", "useSsl"] s.servers v

theorem mem_names_iff (r : Registry) (name : String) :
    name ∈ r.names ↔ (r.find? name).isSome = true := by
  rw [find?_eq_lookup, Json.isSome_lookup_iff, names]

theorem holds_ofSnapshot (s : Snapshot) (h : s.Kept) : (ofSnapshot s).Holds s := by
  have hheld := held_ofSnapshot s h.held
  refine ⟨List.pairwise_map.mpr hheld.rising, fun name => ?_, fun m hm => ?_, ?_, ?_⟩
  · rw [mem_names_iff, find?_ofSnapshot]
    split_ifs with hservers hports
    · simp [hservers]
    · simp [hports]
    · simp only [hservers, hports, false_or, Json.isSome_lookup_iff]
  · obtain ⟨hports, hservers⟩ := h.other m hm
    rw [find?_ofSnapshot, if_neg hservers, if_neg hports, h.held.rising.lookup_of_mem m hm]
  · exact ⟨_, (find?_ofSnapshot s _).trans (by rw [if_neg (by decide), if_pos rfl]), s.writes_ports⟩
  · exact ⟨_, (find?_ofSnapshot s _).trans (if_pos rfl), s.writes_servers⟩

def Everything : Option (List String) → Prop
  | none => True
  | some names => names = [] ∨ ∃ name ∈ names, name.toList.map Char.toLower = ['a', 'l', 'l']

theorem selectsAll_iff (selection : Option (List String)) :
    selectsAll selection = true ↔ Everything selection := by
  cases selection with
  | none => exact ⟨fun _ => trivial, fun _ => rfl⟩
  | some names =>
    rw [selectsAll, Bool.or_eq_true, List.isEmpty_iff, List.any_eq_true]
    simp only [sameIgnoringCase_iff]
    rfl

instance : DecidablePred Everything :=
  fun selection => decidable_of_iff _ (selectsAll_iff selection)

def pick (r : Registry) (found : List (String × Json)) (name : String) : List (String × Json) :=
  match r.find? name with
  | some entries => Json.insertMember name entries found
  | none => found

variable (r : Registry)

theorem lookup_pick (found : List (String × Json)) (name query : String) :
    (r.pick found name).lookup query =
      if query = name then (r.find? query).or (found.lookup query) else found.lookup query := by
  unfold pick
  split
  · rename_i entries hentries
    rw [Json.lookup_insertMember]
    split_ifs with hquery
    · rw [hquery, hentries]
      rfl
    · rfl
  · rename_i hnone
    split_ifs with hquery
    · rw [hquery, hnone]
      rfl
    · rfl

theorem lookup_foldl_pick (names : List String) (found : List (String × Json)) (query : String) :
    (names.foldl r.pick found).lookup query =
      if query ∈ names then (r.find? query).or (found.lookup query) else found.lookup query := by
  induction names generalizing found with
  | nil => rfl
  | cons name names ih =>
    rw [List.foldl_cons, ih, lookup_pick]
    by_cases hname : query = name
    · subst hname
      cases r.find? query <;> simp
    · simp [hname]

theorem select_of_everything (selection : Option (List String)) (h : Everything selection) :
    r.select selection = r.categories := by
  cases selection with
  | none => rfl
  | some names => exact if_pos ((selectsAll_iff _).mpr h)

theorem select_of_names (hr : Json.Held r.categories) (names : List String)
    (h : ¬ Everything (some names)) :
    r.select (some names) = r.categories.filter fun c => c.1 ∈ names := by
  have hrising := (r.held_select hr (some names)).rising
  have hrun : r.select (some names) = names.foldl r.pick [] :=
    if_neg fun hall => h ((selectsAll_iff _).mp hall)
  refine hrising.eq_of_lookup (hr.rising.filter _) fun query => ?_
  rw [hr.rising.lookup_filter (· ∈ names), hrun, lookup_foldl_pick, find?_eq_lookup,
    List.lookup_nil, Option.or_none]

theorem select_eq_categories_iff (hr : Json.Held r.categories) (selection : Option (List String)) :
    r.select selection = r.categories ↔
      Everything selection ∨ ∃ names, selection = some names ∧ ∀ c ∈ r.categories, c.1 ∈ names := by
  by_cases h : Everything selection
  · exact ⟨fun _ => .inl h, fun _ => r.select_of_everything selection h⟩
  · cases selection with
    | none => exact absurd trivial h
    | some names =>
      rw [r.select_of_names hr names h, List.filter_eq_self]
      simp [h]

theorem exists_other_name (names : List String) :
    ∃ name, name ≠ listenPortsName ∧ name ≠ serversName ∧ name ∉ names := by
  obtain ⟨name, hname⟩ :=
    Infinite.exists_notMem_finset (listenPortsName :: serversName :: names).toFinset
  rw [List.mem_toFinset, List.mem_cons, List.mem_cons, not_or, not_or] at hname
  exact ⟨name, hname.1, hname.2.1, hname.2.2⟩

/-- The selections that give all categories of every configuration are those that stand for
everything: any others miss a category that they do not name. -/
theorem everything_iff (selection : Option (List String)) : Everything selection ↔
    ∀ text s, Snapshot.ofText? text = some s →
      (ofSnapshot s).select selection = (ofSnapshot s).categories := by
  refine ⟨fun h text s _ => select_of_everything _ selection h, fun hall => ?_⟩
  -- A configuration with one more category, of a name that the selection does not mention.
  obtain ⟨name, hports, hservers, hname⟩ := exists_other_name (selection.getD [])
  have hheld : Json.Held [(name, .null)] :=
    Json.Held.nil.insertMember name .null rfl trivial rfl
  have hkept : Snapshot.Kept ⟨[], [], [(name, .null)]⟩ := by
    refine ⟨hheld, fun m hm => ?_⟩
    rw [List.mem_singleton.mp hm]
    exact ⟨hports, hservers⟩
  have hgiven := hall _ _ (Snapshot.reloads _ hkept rfl).1
  have hregistry := held_ofSnapshot _ hkept.held
  rcases (select_eq_categories_iff _ hregistry selection).mp hgiven with h | ⟨names, rfl, h⟩
  · exact h
  · have hfound := (holds_ofSnapshot _ hkept).extra _ List.mem_cons_self
    rw [find?_eq_lookup, hregistry.rising.lookup_eq_some_iff] at hfound
    exact absurd (h _ hfound) hname

end Registry

/-- **Configuration survives loading and lookup.** Let a text be loaded. The snapshot is what the
object in the text comes to, and when there are no doubles in it, it is loaded again from its own
text. Its registry holds the two typed lists and the other categories, each under its name, with the
values that were loaded.

The selections that give all categories, whatever they are, are those that stand for everything; any
other gives just the categories that it names, so that it gives all of a registry only by naming
all. -/
theorem configuration_survives (text : String) (s : Snapshot)
    (h : Snapshot.ofText? text = some s) :
    let r := Registry.ofSnapshot s
    (∃ v, Json.parseText text = some v ∧ s.TakenFrom v) ∧
    (Json.hasFloatMembers s.extra = false → s.Reloads) ∧ r.Holds s ∧
    ∀ selection,
      (Registry.Everything selection ↔ ∀ text' s', Snapshot.ofText? text' = some s' →
        (Registry.ofSnapshot s').select selection = (Registry.ofSnapshot s').categories) ∧
      (r.select selection = r.categories ↔ Registry.Everything selection ∨
        ∃ names, selection = some names ∧ ∀ c ∈ r.categories, c.1 ∈ names) ∧
      ∀ names, selection = some names → ¬ Registry.Everything selection →
        r.select selection = r.categories.filter fun c => c.1 ∈ names := by
  intro r
  have hkept := Snapshot.kept_of_ofText text s h
  have hheld := Registry.held_ofSnapshot s hkept.held
  obtain ⟨v, hv, hs⟩ := Option.bind_eq_some_iff.mp h
  refine ⟨⟨v, hv, Snapshot.takenFrom_of_ofJson v s hs⟩, s.reloads hkept,
    Registry.holds_ofSnapshot s hkept, fun selection => ⟨?_, ?_, ?_⟩⟩
  · exact Registry.everything_iff selection
  · exact r.select_eq_categories_iff hheld selection
  · rintro names rfl hsome
    exact r.select_of_names hheld names hsome

/-- A snapshot with defaults left out is loaded, is loaded again with them written, and names are
picked from among others. -/
theorem configuration_survives_small :
    (∃ v, Json.parseText Snapshot.smallJson.compact = some v ∧ Snapshot.small.TakenFrom v) ∧
    Snapshot.small.Reloads ∧
    (Registry.ofSnapshot .small).select (some ["servers", "nope", "limits", "LIMITS", "limits"]) =
      [("limits", .obj [("most", .int 3)]),
        ("servers", .arr [.obj [("host", .str "example.com"), ("name", .str "home"),
          ("port", .int 443), ("useSsl", .bool false)]])] := by
  obtain ⟨htaken, hreloads, -, hselect⟩ := configuration_survives _ _ Snapshot.ofText?_small
  exact ⟨htaken, hreloads rfl, (hselect _).2.2 _ rfl (by decide)⟩

end PacketReplay
