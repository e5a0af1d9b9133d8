import GdpRouter.Deployment.Streams

/-! What RIBs and ROS tasks do does not depend on traces, nor on what the connections
carry. Two networks that agree in everything else take the same steps. -/
namespace GdpRouter

open Multimap Transition

variable {R E T : Type}

/-- Over bytes there is no trace. -/
def Copy.bare (copy : Copy R E T) : Copy R E T := { copy with trace := ⟨0, none, []⟩ }

/-- RIBs, queues and ROS tasks, without traces and without any frame in flight. -/
def NetState.bare (state : NetState R E T) : NetState R E T :=
  { state with
    ribRx := fun router => (state.ribRx router).map Copy.bare
    queue := fun handle => (state.queue handle).map Copy.bare
    link := fun _ => [] }

/-- What tasks can see. When a frame is delivered is up to the connection. -/
def Observation.bare : Observation R E T → List (Observation R E T)
  | .put handle copy => [.put handle copy.bare]
  | .handled router copy => [.handled router copy.bare]
  | .published task copy => [.published task copy.bare]
  | .delivered _ _ => []

def StreamObservation.bare : StreamObservation R E T → List (Observation R E T)
  | .task _ seen => seen.bare
  | .framed _ _ => []

section Bare

@[simp] theorem Copy.bare_packet (copy : Copy R E T) : copy.bare.packet = copy.packet := rfl

@[simp] theorem Copy.bare_heard (copy : Copy R E T) : copy.bare.heard = copy.heard := rfl

@[simp] theorem Copy.bare_bare (copy : Copy R E T) : copy.bare.bare = copy.bare := rfl

@[simp] theorem Copy.bare_mk (packet : GDPPacket) (heard : Option E) (trace : Trace R T) :
    (⟨packet, heard, trace⟩ : Copy R E T).bare = ⟨packet, heard, ⟨0, none, []⟩⟩ := rfl

variable (state : NetState R E T)

@[simp] theorem NetState.bare_table : state.bare.table = state.table := rfl

@[simp] theorem NetState.bare_closed : state.bare.closed = state.closed := rfl

@[simp] theorem NetState.bare_started : state.bare.started = state.started := rfl

@[simp] theorem NetState.bare_flushed : state.bare.flushed = state.flushed := rfl

@[simp] theorem NetState.bare_fresh : state.bare.fresh = state.fresh := rfl

@[simp] theorem NetState.bare_statRs : state.bare.statRs = state.statRs := rfl

@[simp] theorem NetState.bare_channelRx : state.bare.channelRx = state.channelRx := rfl

@[simp] theorem NetState.bare_ribRx (router : R) :
    state.bare.ribRx router = (state.ribRx router).map Copy.bare := rfl

@[simp] theorem NetState.bare_queue (handle : Handle E T) :
    state.bare.queue handle = (state.queue handle).map Copy.bare := rfl

end Bare

variable [DecidableEq R] [DecidableEq E] [DecidableEq T]

section Commutes

variable {state : NetState R E T}

omit [DecidableEq R] [DecidableEq E] [DecidableEq T] in
/-- States that agree without traces and frames agree in everything else. -/
theorem NetState.bare_eq_iff {first second : NetState R E T} : first.bare = second.bare ↔
    first.table = second.table ∧ first.channelRx = second.channelRx ∧
      first.statRs = second.statRs ∧ first.closed = second.closed ∧
      first.started = second.started ∧ first.flushed = second.flushed ∧
      first.fresh = second.fresh ∧
      (∀ router, (first.ribRx router).map Copy.bare = (second.ribRx router).map Copy.bare) ∧
      ∀ handle, (first.queue handle).map Copy.bare = (second.queue handle).map Copy.bare := by
  constructor
  · intro h
    simp only [bare, mk.injEq] at h
    obtain ⟨hTable, hRib, hChannel, hStat, hQueue, -, hClosed, hStarted, hFlushed, hFresh⟩ := h
    exact ⟨hTable, hChannel, hStat, hClosed, hStarted, hFlushed, hFresh, congrFun hRib,
      congrFun hQueue⟩
  · rintro ⟨hTable, hChannel, hStat, hClosed, hStarted, hFlushed, hFresh, hRib, hQueue⟩
    simp only [bare, hTable, hChannel, hStat, hClosed, hStarted, hFlushed, hFresh, funext hRib,
      funext hQueue]

/-- What is sent, without traces. -/
def bareSent (sent : List (Handle E T × Copy R E T)) : List (Handle E T × Copy R E T) :=
  sent.map fun out => (out.1, out.2.bare)

omit [DecidableEq R] in
/-- Forgetting the traces of what is sent forgets them on every handle. -/
theorem enqueuedOn_bareSent (handle : Handle E T) (sent : List (Handle E T × Copy R E T)) :
    enqueuedOn handle (bareSent sent) = (enqueuedOn handle sent).map Copy.bare := by
  unfold enqueuedOn bareSent
  rw [List.filterMap_map, List.map_filterMap]
  congr 1
  funext out
  by_cases hHandle : out.1 = handle <;> simp [hHandle]

omit [DecidableEq R] in
theorem NetState.put_bare (sent : List (Handle E T × Copy R E T)) :
    (state.put sent).bare = state.bare.put (bareSent sent) := by
  simp [put, bare, enqueuedOn_bareSent]

omit [DecidableEq R] [DecidableEq E] [DecidableEq T] in
/-- The observations of a put lose their traces with the copies. -/
theorem putAll_bare (sent : List (Handle E T × Copy R E T)) :
    (putAll sent).flatMap Observation.bare = putAll (bareSent sent) := by
  unfold putAll bareSent
  rw [List.flatMap_map, List.map_map]
  exact (List.map_eq_flatMap ..).symm

omit [DecidableEq R] [DecidableEq E] [DecidableEq T] in
/-- Changing a queue without traces. -/
theorem bare_update {ι : Type} [DecidableEq ι] (queues : ι → List (Copy R E T)) (i : ι)
    (items : List (Copy R E T)) : (fun j => (Function.update queues i items j).map Copy.bare) =
      Function.update (fun j => (queues j).map Copy.bare) i (items.map Copy.bare) := by
  funext j
  exact Function.apply_update (fun _ => List.map Copy.bare) queues i items j

omit [DecidableEq E] [DecidableEq T] in
/-- Handing a message to a RIB commutes with forgetting traces. -/
theorem NetState.submit_bare (router : R) (heard : Option E) (trace : Trace R T)
    (message : Option (RibMessage (Handle E T))) :
    (state.submit router heard trace message).bare =
      state.bare.submit router heard ⟨0, none, []⟩ message := by
  match message with
  | none => rfl
  | some (.register channel) => rfl
  | some (.route packet) =>
      simp only [submit, bare, bare_update, List.map_append, List.map_cons, List.map_nil,
        Copy.bare_mk]

/-- What a step comes to, without traces and frames. -/
def bareResult (after : NetState R E T × List (Observation R E T)) :
    NetState R E T × List (Observation R E T) :=
  (after.1.bare, after.2.flatMap Observation.bare)

/-- The RIB does not look at traces. -/
theorem NetState.ribHandle_bare (router : R) (event : RibEvent (Handle E T)) (order : List GDPName)
    (heard : Option E) (trace other : Trace R T) :
    (state.ribHandle router event order heard trace).map
        (fun after => (after.1.bare, bareSent after.2)) =
      (state.bare.ribHandle router event order heard other).map
        fun after => (after.1.bare, bareSent after.2) := by
  have hSent : ∀ out : List (Handle E T × GDPPacket),
      bareSent (out.map fun dst => (dst.1, (⟨dst.2, heard, trace⟩ : Copy R E T))) =
        bareSent (out.map fun dst => (dst.1, ⟨dst.2, heard, other⟩)) := by
    intro out
    simp [bareSent]
  unfold ribHandle
  rw [Option.map_map, Option.map_map, bare_table, bare_closed]
  congr 1
  funext next
  simp only [Function.comp_apply, put_bare, hSent]
  simp [bare, put, Function.comp_def]

omit [DecidableEq R] [DecidableEq E] [DecidableEq T] in
variable (state) in
@[simp] theorem NetState.bare_bare : state.bare.bare = state.bare := by
  simp [bare, Function.comp_def]

/-- So it does the same in states that agree without them. -/
theorem ribHandle_alike {first second : NetState R E T} (seen seen' : List (Observation R E T))
    (hSame : first.bare = second.bare)
    (hSeen : seen.flatMap Observation.bare = seen'.flatMap Observation.bare) (router : R)
    (event : RibEvent (Handle E T)) (order : List GDPName) (heard : Option E)
    (trace trace' : Trace R T) :
    ((first.ribHandle router event order heard trace).map fun after =>
        (after.1, seen ++ putAll after.2)).map bareResult =
      ((second.ribHandle router event order heard trace').map fun after =>
        (after.1, seen' ++ putAll after.2)).map bareResult := by
  have hHandle := (first.ribHandle_bare router event order heard trace trace).trans
    (hSame ▸ (second.ribHandle_bare router event order heard trace' trace).symm)
  have hShown := congrArg (Option.map fun after =>
    (after.1, seen.flatMap Observation.bare ++ putAll after.2)) hHandle
  rw [Option.map_map, Option.map_map] at hShown ⊢
  simpa [Function.comp_def, bareResult, putAll_bare, hSeen] using hShown

/-- The tasks do not look at traces, nor at what the connections carry. -/
theorem next_bare (net : Network R E T) {label : NetLabel R E T}
    (hFrame : label.movesFrame = false) :
    (net.next state label).map bareResult = (net.next state.bare label).map bareResult := by
  have hSubmit : ∀ (taken : NetState R E T) (router : R) (heard : Option E) (trace : Trace R T)
      (message : Option (RibMessage (Handle E T))),
      bareResult (taken.submit router heard trace message, []) =
        bareResult (taken.bare.submit router heard trace message, []) := by
    intro taken router heard trace message
    simp only [bareResult, NetState.submit_bare, NetState.bare_bare]
  have hBare : ∀ (taken : NetState R E T) (seen : List (Observation R E T)),
      bareResult (taken, seen) = bareResult (taken.bare, seen) := by
    intro taken seen
    simp only [bareResult, NetState.bare_bare]
  cases label with
  | connSend | connRecv | wire | lose => cases hFrame
  | ribPacket router order =>
      simp only [Network.next, NetState.bare_ribRx]
      cases hQueue : state.ribRx router with
      | nil => rfl
      | cons copy rest =>
          have hTaken : ({ state with ribRx := Function.update state.ribRx router rest } :
              NetState R E T).bare = ({ state.bare with
                ribRx := Function.update state.bare.ribRx router (rest.map Copy.bare) } :
                  NetState R E T) := by
            simp only [NetState.bare, bare_update]
          exact ribHandle_alike [.handled router copy] [.handled router copy.bare]
            (hTaken ▸ (NetState.bare_bare _).symm) rfl router _ order copy.heard copy.trace _
  | ribChannel router =>
      simp only [Network.next, NetState.bare_channelRx]
      cases hQueue : state.channelRx router with
      | nil => rfl
      | cons channel rest =>
          exact ribHandle_alike [] [] (NetState.bare_bare { state with
            channelRx := Function.update state.channelRx router rest }).symm rfl router _ _ none _ _
  | ribStatus router order =>
      simp only [Network.next, NetState.bare_statRs]
      cases hQueue : state.statRs router with
      | nil => rfl
      | cons update rest =>
          exact ribHandle_alike [] [] (NetState.bare_bare { state with
            statRs := Function.update state.statRs router rest
            fresh := state.fresh + 1 }).symm rfl router _ _ none _ _
  | connStart endpoint =>
      cases hStarted : state.started (.conn endpoint) with
      | true => simp [Network.next, hStarted]
      | false =>
          simp only [Network.next, NetState.bare_started, hStarted, Bool.false_eq_true, ↓reduceIte,
            Option.map_some]
          exact congrArg some (hSubmit _ _ _ _ _)
  | rosAdvertise task =>
      cases hStarted : state.started (.ros task) with
      | true => simp [Network.next, hStarted]
      | false =>
          simp only [Network.next, NetState.bare_started, hStarted, Bool.false_eq_true, ↓reduceIte,
            Option.map_some]
          exact congrArg some (hSubmit _ _ _ _ _)
  | rosForward task payload =>
      have hRunning : state.bare.running (.ros task) = state.running (.ros task) := rfl
      simp only [Network.next, hRunning]
      by_cases hTask : state.running (.ros task) = true ∧ net.rosKind task = .subscriber ∧
          payload.length < usizeSize
      · rw [if_pos hTask, if_pos hTask]
        cases hTx : net.ribTx task with
        | none => exact congrArg some (hSubmit _ _ _ _ _)
        | some endpoint =>
            refine congrArg some (Prod.ext ?_ rfl)
            have hPut : ∀ (taken : NetState R E T) (sent : List (Handle E T × Copy R E T)),
                (taken.put sent).bare = (taken.bare.put sent).bare := by
              intro taken sent
              rw [NetState.put_bare, NetState.put_bare, NetState.bare_bare]
            exact hPut _ _
      · rw [if_neg hTask, if_neg hTask]
  | rosRecv task =>
      have hRunning : state.bare.running (.ros task) = state.running (.ros task) := rfl
      simp only [Network.next, hRunning]
      cases hTask : state.running (.ros task) with
      | false => rfl
      | true =>
        cases hKind : net.rosKind task with
        | subscriber => rfl
        | publisher =>
            simp only [NetState.bare_queue]
            cases hQueue : state.queue (.ros task) with
            | nil => rfl
            | cons copy rest =>
                have hTaken : ({ state with
                    queue := Function.update state.queue (.ros task) rest } : NetState R E T).bare =
                      { state.bare with queue :=
                          Function.update state.bare.queue (.ros task) (rest.map Copy.bare) } := by
                  simp only [NetState.bare, bare_update]
                refine congrArg some (Prod.ext ?_ ?_)
                · exact (NetState.bare_bare _).symm.trans (congrArg NetState.bare hTaken)
                · by_cases hAccepted : copy.packet.action = .forward ∧
                      copy.packet.gdpname = net.topicName task
                  · simp [bareResult, hAccepted, Observation.bare]
                  · simp [bareResult, hAccepted]
  | flush router =>
      simp only [Network.next, NetState.bare_flushed]
      cases state.flushed router with
      | true => rfl
      | false =>
          cases net.gateway router with
          | none => rfl
          | some endpoint => exact congrArg some (hBare { state with statRs := _, flushed := _ } [])
  | close handle =>
      have hClosed : ({ state with
          closed := Function.update state.closed handle true
          queue := Function.update state.queue handle [] } : NetState R E T).bare =
            { state.bare with
              closed := Function.update state.bare.closed handle true
              queue := Function.update state.bare.queue handle [] } := by
        simp only [NetState.bare, bare_update, List.map_nil]
      exact congrArg some ((hBare _ []).trans (by rw [hClosed]))

/-- Cutting a network open leaves its tasks alone. -/
theorem cut_next (net : StreamNetwork R E T) {label : NetLabel R E T}
    (hFrame : label.movesFrame = false) :
    net.cut.next state label = net.toNetwork.next state label := by
  cases label with
  | connSend | connRecv | wire | lose => cases hFrame
  | ribPacket | ribChannel | ribStatus | connStart | rosAdvertise => rfl
  | rosForward | rosRecv | flush | close => rfl

/-- A step of a task of the cut network is one of the whole network. -/
theorem next_alike (net : StreamNetwork R E T) {conc conc' abs : NetState R E T}
    {label : NetLabel R E T} {seen : List (Observation R E T)} (hFrame : label.movesFrame = false)
    (hSame : abs.bare = conc.bare) (hStep : net.cut.next conc label = some (conc', seen)) :
    ∃ abs' seen', net.toNetwork.next abs label = some (abs', seen') ∧ abs'.bare = conc'.bare ∧
      seen'.flatMap Observation.bare = seen.flatMap Observation.bare := by
  have hBoth : (net.toNetwork.next abs label).map bareResult = some (bareResult (conc', seen)) := by
    rw [next_bare _ hFrame, hSame, ← next_bare _ hFrame, ← cut_next net hFrame, hStep]
    rfl
  obtain ⟨⟨abs', seen'⟩, hNext, hBare⟩ := Option.map_eq_some_iff.mp hBoth
  obtain ⟨hState, hSeen⟩ := Prod.mk.inj hBare
  exact ⟨abs', seen', hNext, hState, hSeen⟩

omit [DecidableEq R] [DecidableEq E] [DecidableEq T] in
@[simp] theorem NetState.bare_running (handle : Handle E T) :
    state.bare.running handle = state.running handle := rfl

/-- Only the connections move frames. -/
theorem Move.link_eq {net : Network R E T} {after : NetState R E T} {label : NetLabel R E T}
    {observed : List (Observation R E T)} (hMove : Move net state label after observed)
    (hFrame : label.movesFrame = false) : after.link = state.link := by
  cases hMove with
  | connSend | connSendOut | connRecv | wire | lose => cases hFrame
  | ribPacket | ribChannel | ribStatus | rosForwardDirect | rosRecv | flush | close => rfl
  | connStart | rosAdvertise | rosForward => simp

end Commutes

end GdpRouter
