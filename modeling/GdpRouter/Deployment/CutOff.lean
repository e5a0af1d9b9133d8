import GdpRouter.Deployment.Advertising
import GdpRouter.Deployment.Launch

/-! A client that has lost its advertising connection. Nobody opens it again, and nothing
but this connection leads down to the client. -/
namespace GdpRouter

open Multimap Transition

namespace Launch

variable {C : Type} [DecidableEq C] {launch : Launch C} {σ : Type} {sha : Sha256 σ}
  {threadName : launch.Socket → GDPName} {client : C}
  {state after : NetState (Option C) launch.Socket launch.Task}
  {label : NetLabel (Option C) launch.Socket launch.Task}
  {observed : List (Observation (Option C) launch.Socket launch.Task)}

variable (sha threadName client) in
/-- What the RIB of the client has yet to handle, and what still comes down to it. -/
def comingDown (state : NetState (Option C) launch.Socket launch.Task) :
    List (Copy (Option C) launch.Socket launch.Task) :=
  state.ribRx (some client) ++
    match state.closed (.conn (launch.advertising client)) with
    | true => []
    | false => (state.link (launch.advertising client)).flatMap
        ((launch.network sha threadName).received (launch.advertising client))

/-- One of the two ends of the advertising connection is gone. -/
def CutOff (client : C) (state : NetState (Option C) launch.Socket launch.Task) : Prop :=
  state.closed (.conn (launch.advertised client)) = true ∨
    state.closed (.conn (launch.advertising client)) = true

theorem CutOff.step (h : CutOff client state)
    (hMove : Move (launch.network sha threadName) state label after observed) :
    CutOff client after :=
  h.imp hMove.closed_grows hMove.closed_grows

/-- Most steps have nothing to do with it. -/
theorem comingDown_idle
    (hSeen : observed.flatMap (Observation.handledAt (some client)) = [])
    (hRib : after.ribRx (some client) = state.ribRx (some client))
    (hClosed : after.closed (.conn (launch.advertising client)) =
      state.closed (.conn (launch.advertising client)))
    (hLink : after.link (launch.advertising client) = state.link (launch.advertising client)) :
    (observed.flatMap (Observation.handledAt (some client)) ++
      comingDown sha threadName client after).Sublist (comingDown sha threadName client state) := by
  rw [hSeen, comingDown, hRib, hClosed, hLink]
  exact .refl _

/-- Only the advertising connection leads to the RIB of the client, and only out of the
queue of the gateway's end. -/
theorem CutOff.drains (hCut : CutOff client state)
    (hRoutes : (launch.routes threadName).Everywhere (launch.network sha threadName) state)
    (hMove : Move (launch.network sha threadName) state label after observed) :
    (observed.flatMap (Observation.handledAt (some client)) ++
      comingDown sha threadName client after).Sublist (comingDown sha threadName client state) := by
  have hNothing : ∀ sent : List (Handle launch.Socket launch.Task × _),
      (putAll sent).flatMap (Observation.handledAt (some client)) = [] := fun sent =>
    putAll_flatMap_nil fun _ _ => rfl
  cases hMove with
  | @ribPacket router order copy rest hQueue hOrder =>
      obtain rfl | hRouter := eq_or_ne router (some client)
      · simp [comingDown, NetState.put, hQueue, hNothing, Observation.handledAt]
      · exact comingDown_idle (by simp [hNothing, Observation.handledAt, hRouter])
          (by simp [NetState.put, hRouter.symm]) rfl rfl
  | ribChannel hQueue => exact comingDown_idle rfl rfl rfl rfl
  | ribStatus hQueue hOrder => exact comingDown_idle (hNothing _) rfl rfl rfl
  | connStart hStarted =>
      exact comingDown_idle rfl (by simp [messageCopies_self]) (by simp) (by simp)
  | @connSend endpoint other copy rest hRunning hPeer hQueue =>
      obtain rfl | hOther := eq_or_ne other (launch.advertising client)
      · -- The gateway's end is not gone, so this one is, and reads nothing more.
        have hEnd : endpoint = launch.advertised client :=
          Option.some.inj (((launch.network sha threadName).peer_symm hPeer).symm.trans rfl)
        have hGone : state.closed (.conn (launch.advertising client)) = true := by
          refine hCut.resolve_left fun hClosed => ?_
          simp [NetState.running, hEnd, hClosed] at hRunning
        simp [comingDown, hGone]
      · exact comingDown_idle rfl rfl rfl (by simp [hOther.symm])
  | connSendOut hRunning hPeer hQueue => cases hPeer
  | @connRecv endpoint frame rest hRunning hLink =>
      obtain ⟨⟨other, index⟩, side⟩ := endpoint
      cases side with
      | true =>
          exact comingDown_idle rfl (by simp [network, home]) (by simp)
            (by simp [advertising])
      | false =>
          cases index with
          | some index =>
              -- Nothing ever comes down over a direct connection.
              cases hRoutes.flying _ frame (hLink ▸ List.mem_cons_self)
          | none =>
              obtain rfl | hOther := eq_or_ne other client
              · have hHome : (launch.network sha threadName).home (launch.advertising other) =
                    some other := rfl
                have hOpen : state.closed (.conn (launch.advertising other)) = false :=
                  (Bool.not_eq_true' _).mp (Bool.and_eq_true_iff.mp hRunning).2
                rw [← advertising] at hLink ⊢
                simp [comingDown, hOpen, hLink, hHome, messageCopies_receive,
                  Observation.handledAt]
              · exact comingDown_idle rfl (by simp [network, home, hOther.symm]) (by simp)
                  (by simp [advertising, hOther.symm])
  | wire header payload hPeer => cases hPeer
  | @lose endpoint frame rest hLink =>
      obtain rfl | hEndpoint := eq_or_ne endpoint (launch.advertising client)
      · cases hClosed : state.closed (.conn (launch.advertising client)) with
        | true => simp [comingDown, hClosed]
        | false =>
            simp only [comingDown, hClosed, hLink, Function.update_self, List.flatMap_cons,
              List.flatMap_nil, List.nil_append]
            exact (List.sublist_append_right _ _).append_left _
      · exact comingDown_idle rfl rfl rfl (by simp [hEndpoint.symm])
  | rosAdvertise hStarted =>
      exact comingDown_idle rfl (by simp [nodeAdvertisement_eq, messageCopies]) (by simp) (by simp)
  | @rosForward task payload hRunning hKind hTx =>
      obtain ⟨_ | other, index⟩ := task
      · exact comingDown_idle rfl (by simp [network]) (by simp) (by simp)
      · cases hTx
  | rosForwardDirect payload hRunning hKind hTx => exact comingDown_idle (hNothing _) rfl rfl rfl
  | rosRecv hRunning hKind hQueue =>
      exact comingDown_idle (by split <;> simp [Observation.handledAt]) rfl rfl rfl
  | flush hFlushed hGateway => exact comingDown_idle rfl rfl rfl rfl
  | close handle =>
      obtain rfl | hHandle := eq_or_ne handle (.conn (launch.advertising client))
      · simp [comingDown]
      · exact comingDown_idle rfl rfl (by simp [hHandle.symm]) rfl

end Launch

namespace CutOffExample

open LaunchExample

/-- When the gateway's end goes, one message of the client is on its way back. -/
def early : List (NetLabel (Option Unit) launch.Socket launch.Task) :=
  labels.take 20 ++ [.close (.conn (launch.advertised ()))]

/-- The client gets it, and sends another, which does not come back. -/
def late : List (NetLabel (Option Unit) launch.Socket launch.Task) :=
  [.connRecv (launch.advertising ()), .ribPacket (some ()) names, .rosForward task [8],
    .connSend (launch.direct index), .connRecv (⟨(), some index⟩, true), .ribPacket none names]

def unheard : Copy (Option Unit) launch.Socket launch.Task :=
  ⟨constructGdpForwardFromBytes (net.topicName task) (.ofBytes 4 1 1 1) [8],
    some (⟨(), some index⟩, true), ⟨2, some task, [some (), none]⟩⟩

end CutOffExample

end GdpRouter
