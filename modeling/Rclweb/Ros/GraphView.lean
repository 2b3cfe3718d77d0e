import Rclweb.Gateway.GraphStream

/-!
# The graph of the ROS backend

`build_graph_view` lists the topics and then the services that exist, and numbers them in this
order.  A client keeps the ids across views, so an id goes on to mean the same endpoint exactly as
long as an endpoint that is shown stands where no other one that was shown has stood
(`graph_ids_stable`).  A topic that appears in front of the others takes over their ids
(`not_graph_ids_stable`).
-/

namespace Rclweb
namespace Ros

open Gateway

/-- Names with their types, as the graph queries return them. -/
abbrev GraphTopics := List (String × List String)

/-- **What the graph queries return.**  A list in memory is shorter than 2^63. -/
structure GraphListing where
  topics : GraphTopics
  services : GraphTopics
  topics_lt : topics.length < 2 ^ 63
  services_lt : services.length < 2 ^ 63

/-- The id of the endpoint at a position. -/
def endpointId (index : ℕ) : List UInt8 :=
  List.replicate 8 0 ++ BigEndian.toBytes 8 (min (index + 1) (2 ^ 64 - 1))

/-- The id of the only node. -/
def graphNodeId : List UInt8 := List.replicate 15 0 ++ [1]

/-- The endpoints of one kind, from a position on. -/
def graphEndpoints (domainId kind : UInt8) (defaultType : String) (index : ℕ)
    (entries : GraphTopics) : List GraphEndpointInfo :=
  (entries.zipIdx index).map fun ((name, types), index) =>
    { id := endpointId index
      nodeId := graphNodeId
      name := name
      kind := kind
      typeName := types.head?.getD defaultType
      domainId := domainId }

/-- `build_graph_view`. -/
def buildGraphView (domainId : UInt8) (processId : ℕ) (listing : GraphListing) : GraphView where
  nodes := [⟨graphNodeId, "rclwebd_" ++ toString processId, none, domainId⟩]
  endpoints :=
    graphEndpoints domainId 0 "std_msgs/msg/String" 0 listing.topics ++
      graphEndpoints domainId 2 "std_msgs/srv/Empty" listing.topics.length listing.services

/-! ## Positions -/

theorem getElem?_graphEndpoints {domainId kind : UInt8} {defaultType : String} {start i : ℕ}
    {entries : GraphTopics} {endpoint : GraphEndpointInfo}
    (h : (graphEndpoints domainId kind defaultType start entries)[i]? = some endpoint) :
    i < entries.length ∧ endpoint.id = endpointId (start + i) := by
  rw [graphEndpoints, List.getElem?_map, List.getElem?_zipIdx, Option.map_map] at h
  obtain ⟨entry, hentry, rfl⟩ := Option.map_eq_some_iff.mp h
  exact ⟨(List.getElem?_eq_some_iff.mp hentry).1, rfl⟩

theorem length_graphEndpoints (domainId kind : UInt8) (defaultType : String) (start : ℕ)
    (entries : GraphTopics) :
    (graphEndpoints domainId kind defaultType start entries).length = entries.length := by
  rw [graphEndpoints, List.length_map, List.length_zipIdx]

/-- **The id of an endpoint is its position.** -/
theorem id_of_mem_zipIdx {domainId : UInt8} {processId : ℕ} {listing : GraphListing}
    {p : GraphEndpointInfo × ℕ}
    (h : p ∈ (buildGraphView domainId processId listing).endpoints.zipIdx) :
    p.1.id = endpointId p.2 ∧ p.2 + 1 < 2 ^ 64 := by
  have hget := List.mk_mem_zipIdx_iff_getElem?.mp h
  have htopics := listing.topics_lt
  have hservices := listing.services_lt
  rw [buildGraphView, List.getElem?_append, length_graphEndpoints] at hget
  split_ifs at hget with hlt
  · obtain ⟨hlen, hid⟩ := getElem?_graphEndpoints hget
    rw [Nat.zero_add] at hid
    exact ⟨hid, by omega⟩
  · obtain ⟨hlen, hid⟩ := getElem?_graphEndpoints hget
    rw [Nat.add_sub_cancel' (Nat.le_of_not_lt hlt)] at hid
    exact ⟨hid, by omega⟩

/-- Different positions have different ids, as the client sees them. -/
theorem index_of_padId16 {i j : ℕ} (hi : i + 1 < 2 ^ 64) (hj : j + 1 < 2 ^ 64)
    (h : padId16 (endpointId i) = padId16 (endpointId j)) : i = j := by
  have hpad : ∀ n, padId16 (endpointId n) = endpointId n := by
    intro n
    have hlength : (endpointId n).length = 16 := by
      rw [endpointId, List.length_append, List.length_replicate, BigEndian.length_toBytes]
    rw [padId16, hlength]
    rfl
  rw [hpad, hpad] at h
  have hbytes := congrArg BigEndian.ofBytes (List.append_cancel_left h)
  have hmin : ∀ {n}, n + 1 < 2 ^ 64 → min (n + 1) (2 ^ 64 - 1) = n + 1 :=
    fun hn => min_eq_left (Nat.le_sub_one_of_lt hn)
  rw [hmin hi, hmin hj, BigEndian.ofBytes_toBytes_of_lt (k := 8) hi,
    BigEndian.ofBytes_toBytes_of_lt (k := 8) hj] at hbytes
  exact Nat.succ.inj hbytes

/-! ## The stream of a connection -/

/-- The backend answers every question about the graph with a view of the listing of the moment. -/
def AnswersGraph (domainId : UInt8) (processId : ℕ) (history : List BackendEvent) : Prop :=
  ∀ view : GraphView, (⟨.graphView, .ok view⟩ : BackendEvent) ∈ history →
    ∃ listing, view = buildGraphView domainId processId listing

/-- **An endpoint that is shown stands where no other has stood.** -/
def KeepsPlaces (history : List BackendEvent) : Prop :=
  ∀ p ∈ (told history).endpoints, ∀ q ∈ (told history).endpoints, p.2 = q.2 →
    p.1.name = q.1.name ∧ p.1.kind = q.1.kind

/-- **An id means one endpoint** in everything that was sent: two entries with the same id have the
same name and kind, so a client that folds the entries by id never overwrites another endpoint. -/
def StableIds (sent : List (List UInt8)) : Prop :=
  ∀ b ∈ sent, ∀ b' ∈ sent, ∀ e ∈ sentEntries b, ∀ e' ∈ sentEntries b', e.id = e'.id →
    e.name = e'.name ∧ e.kind = e'.kind

/-- What is shown of a view is in it. -/
theorem Told.mem_of_mem_shown {s : Told} {view : GraphView} {p : GraphEndpointInfo × ℕ}
    (h : p ∈ s.shown view) : p ∈ view.endpoints.zipIdx := by
  unfold Told.shown at h
  split at h
  · exact List.mem_of_find?_eq_some (Option.mem_toList.mp h)
  · exact h

/-- **What was told is from the views of the backend.** -/
theorem mem_told {history : List BackendEvent} {p : GraphEndpointInfo × ℕ}
    (h : p ∈ (told history).endpoints) :
    ∃ view : GraphView, (⟨.graphView, .ok view⟩ : BackendEvent) ∈ history ∧
      p ∈ view.endpoints.zipIdx := by
  induction history using List.reverseRecOn with
  | nil => cases h
  | append_singleton history event ih =>
    have hold : p ∈ (told history).endpoints → ∃ view : GraphView,
        (⟨.graphView, .ok view⟩ : BackendEvent) ∈ history ++ [event] ∧
          p ∈ view.endpoints.zipIdx := by
      intro hmem
      obtain ⟨view, hview, hp⟩ := ih hmem
      exact ⟨view, List.mem_append_left _ hview, hp⟩
    rw [told_append] at h
    obtain ⟨op, answer⟩ := event
    cases op with
    | create kind spec => cases answer <;> exact hold h
    | graphView =>
      cases answer with
      | error err => exact hold h
      | ok view =>
        rcases List.mem_append.mp h with h | h
        · exact hold h
        · exact ⟨view, List.mem_append_right _ (List.mem_singleton.mpr rfl),
            Told.mem_of_mem_shown h⟩
    | _ => exact hold h

/-- **Graph ids are stable while places are kept**: in every run of a connection over the ROS
backend in which an endpoint that is shown stands where no other has stood, an id means one
endpoint in the whole stream of graph messages. -/
theorem graph_ids_stable {jwt : JwtLibrary} {config : GatewayConfig jwt}
    {active : ActiveTransport} {l : Loop} {domainId : UInt8} {processId : ℕ}
    (hreach : Reachable config active l) (hgraph : AnswersGraph domainId processId l.history)
    (hplaces : KeepsPlaces l.history) : StableIds l.sent := by
  have hplaced : ∀ b ∈ l.sent, ∀ e ∈ sentEntries b, ∃ p ∈ (told l.history).endpoints,
      e = .of p.1 ∧ p.1.id = endpointId p.2 ∧ p.2 + 1 < 2 ^ 64 := by
    intro b hb e he
    obtain ⟨p, hp, rfl⟩ := shows_of_reachable hreach b hb e he
    obtain ⟨view, hview, hmem⟩ := mem_told hp
    obtain ⟨listing, rfl⟩ := hgraph view hview
    exact ⟨p, hp, rfl, id_of_mem_zipIdx hmem⟩
  intro b hb b' hb' e he e' he' hid
  obtain ⟨p, hp, rfl, hpid, hplt⟩ := hplaced b hb e he
  obtain ⟨q, hq, rfl, hqid, hqlt⟩ := hplaced b' hb' e' he'
  have hpad : padId16 p.1.id = padId16 q.1.id := hid
  rw [hpid, hqid] at hpad
  obtain ⟨hname, hkind⟩ := hplaces p hp q hq (index_of_padId16 hplt hqlt hpad)
  exact ⟨hname, congrArg UInt8.toUInt64 hkind⟩

/-! ## A topic in front of the others -/

/-- A listing of topics only. -/
def listingOf (topics : GraphTopics) (h : topics.length < 2 ^ 63) : GraphListing :=
  ⟨topics, [], h, by decide⟩

/-- One topic. -/
def chatterListing : GraphListing :=
  listingOf [("/chatter", ["std_msgs/msg/String"])] (by decide)

/-- The topic that a channel was opened for stands in front of it. -/
def nameFirstListing : GraphListing :=
  listingOf [("/name", ["pkg/Type"]), ("/chatter", ["std_msgs/msg/String"])] (by decide)

/-- The same two topics, the other way round. -/
def nameLastListing : GraphListing :=
  listingOf [("/chatter", ["std_msgs/msg/String"]), ("/name", ["pkg/Type"])] (by decide)

/-- A backend with a view of the graph that succeeds at everything else. -/
def backendWith (view : GraphView) : (op : BackendOp) → op.Answer
  | .graphView => (Except.ok view : Except BackendError GraphView)
  | op => sampleBackend op

/-- A message whose handler asks a backend with the given view. -/
def exchangeWith (view : GraphView) (bytes : List UInt8) (asks : ℕ) : List Move :=
  [Move.arrive bytes, .recv] ++ List.replicate asks (Move.answer (backendWith view)) ++
    [Move.finish]

/-- A client authenticates while there is one topic, and opens a publisher of another. -/
def opensTopic (view : GraphView) : List Move :=
  handshake.take 3 ++
  exchangeWith (buildGraphView 0 1 chatterListing) (clientControl 0 (.map [(1, .unsigned 1),
    (2, .bytes zeroCorrelation), (16, .text "dev"), (17, .bytes [1])])) 1 ++
  exchangeWith view (clientControl 1 (sampleOpen 1 (11, keepLastFive))) 2

/-- The views in a history are the given ones. -/
def viewsAmong (views : List GraphView) (event : BackendEvent) : Bool :=
  match event with
  | ⟨.graphView, answer⟩ =>
    match (answer : Except BackendError GraphView) with
    | .ok view => views.contains view
    | .error _ => true
  | _ => true

/-- Views of listings are what the ROS backend answers. -/
theorem answersGraph_of_viewsAmong {history : List BackendEvent} {listings : List GraphListing}
    (h : history.all (viewsAmong (listings.map (buildGraphView 0 1))) = true) :
    AnswersGraph 0 1 history := by
  intro view hview
  have hcontains : (listings.map (buildGraphView 0 1)).contains view = true :=
    List.all_eq_true.mp h _ hview
  obtain ⟨listing, -, hlisting⟩ := List.mem_map.mp (List.contains_iff_mem.mp hcontains)
  exact ⟨listing, hlisting.symm⟩

/-- Two entries with one id and different names were sent. -/
def reusesId (sent : List (List UInt8)) : Bool :=
  (sent.flatMap sentEntries).any fun e =>
    (sent.flatMap sentEntries).any fun e' => e.id == e'.id && e.name != e'.name

/-- **The id of `/chatter` becomes the id of `/name`.** -/
theorem not_graph_ids_stable :
    ∃ l, Reachable sampleConfig .binaryWebSocket l ∧ AnswersGraph 0 1 l.history ∧
      ¬ StableIds l.sent := by
  obtain ⟨l, hreach, hcheck⟩ := reachable_of_scripted
    (opensTopic (buildGraphView 0 1 nameFirstListing))
    (fun l => l.history.all (viewsAmong (List.map (buildGraphView 0 1)
      [chatterListing, nameFirstListing])) && reusesId l.sent) (by decide +kernel)
  rw [Bool.and_eq_true] at hcheck
  refine ⟨l, hreach, answersGraph_of_viewsAmong hcheck.1, fun hstable => ?_⟩
  obtain ⟨e, he, h⟩ := List.any_eq_true.mp hcheck.2
  obtain ⟨e', he', h⟩ := List.any_eq_true.mp h
  rw [Bool.and_eq_true, beq_iff_eq, bne_iff_ne] at h
  obtain ⟨b, hb, he⟩ := List.mem_flatMap.mp he
  obtain ⟨b', hb', he'⟩ := List.mem_flatMap.mp he'
  exact h.2 (hstable b hb b' hb' e he e' he' h.1).1

/-- No position is used twice for different endpoints. -/
def keepsPlaces (history : List BackendEvent) : Bool :=
  (told history).endpoints.all fun p => (told history).endpoints.all fun q =>
    p.2 != q.2 || p.1.name == q.1.name && p.1.kind == q.1.kind

/-- The new topic is listed last. -/
theorem graph_ids_stable_of_last :
    ∃ l, Reachable sampleConfig .binaryWebSocket l ∧ (l.sent.flatMap sentEntries).length = 2 ∧
      StableIds l.sent := by
  obtain ⟨l, hreach, hcheck⟩ := reachable_of_scripted
    (opensTopic (buildGraphView 0 1 nameLastListing))
    (fun l => l.history.all (viewsAmong (List.map (buildGraphView 0 1)
      [chatterListing, nameLastListing])) && (keepsPlaces l.history &&
        decide ((l.sent.flatMap sentEntries).length = 2))) (by decide +kernel)
  rw [Bool.and_eq_true, Bool.and_eq_true, decide_eq_true_eq] at hcheck
  refine ⟨l, hreach, hcheck.2.2,
    graph_ids_stable hreach (answersGraph_of_viewsAmong hcheck.1) fun p hp q hq hindex => ?_⟩
  have hplaces := List.all_eq_true.mp (List.all_eq_true.mp hcheck.2.1 p hp) q hq
  rw [Bool.or_eq_true, bne_iff_ne, Bool.and_eq_true, beq_iff_eq, beq_iff_eq] at hplaces
  exact hplaces.resolve_left (not_not_intro hindex)

end Ros
end Rclweb
