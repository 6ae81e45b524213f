import VmControl.Peer.Client

/-!
# How requests to the receiving host fail

Whatever an exchange with the receiving host comes to, the client tells its failure as one of three
kinds: the host was not reached or not understood, it did not answer in time, or it has no room
(`PeerClient.Fails.isOfPeer`).
-/

namespace VmControl

/-- Whether a failure is of a kind that tells of the receiving host. -/
def ControlError.isOfPeer : ControlError → Bool
  | .remote _ | .deadlineExceeded _ | .precondition _ => true
  | _ => false

namespace PeerClient

/-- A failure that some client of a receiving host tells. -/
def Fails (e : ControlError) : Prop :=
  (∃ (c : PeerClient) (r : PeerRequest) (x : Exchange), c.interpret r x = .error e) ∨
    ∃ server addresses port request incoming,
      open? server addresses port request incoming = .error e

variable {c : PeerClient} {r : PeerRequest} {e : ControlError}

theorem isOfPeer_of_decodeReply {α : Type} {decoder : Decoder α} {body : List UInt8}
    (h : decodeReply r decoder body = .error e) : e.isOfPeer = true := by
  unfold decodeReply at h
  split at h <;> cases h
  rfl

theorem isOfPeer_of_portReply {port : Option UInt16} (h : portReply r port = .error e) :
    e.isOfPeer = true := by
  cases port <;> cases h
  rfl

theorem isOfPeer_of_capacityReply {short : List String} (h : c.capacityReply short = .error e) :
    e.isOfPeer = true := by
  cases short <;> cases h
  rfl

/-- A reply that is read in two steps fails in one of them. -/
theorem isOfPeer_of_bind {α β : Type} {x : Except ControlError α} {f : α → Except ControlError β}
    (first : ∀ e, x = .error e → e.isOfPeer = true)
    (second : ∀ a e, f a = .error e → e.isOfPeer = true) (h : x.bind f = .error e) :
    e.isOfPeer = true := by
  cases x with
  | error e' =>
    cases h
    exact first e rfl
  | ok a => exact second a e h

theorem isOfPeer_of_map {α β : Type} {x : Except ControlError α} {f : α → β}
    (first : ∀ e, x = .error e → e.isOfPeer = true) (h : x.map f = .error e) :
    e.isOfPeer = true := by
  cases x with
  | error e' =>
    cases h
    exact first e rfl
  | ok a => cases h

theorem isOfPeer_of_reply {body : List UInt8} (h : c.reply r body = .error e) :
    e.isOfPeer = true := by
  unfold reply at h
  split at h <;> split at h
  · cases h
  · exact isOfPeer_of_map (fun _ => isOfPeer_of_decodeReply) h
  · exact isOfPeer_of_portReply h
  · exact isOfPeer_of_bind (fun _ => isOfPeer_of_decodeReply) (fun _ _ => isOfPeer_of_portReply) h
  · exact isOfPeer_of_portReply h
  · exact isOfPeer_of_bind (fun _ => isOfPeer_of_decodeReply) (fun _ _ => isOfPeer_of_portReply) h
  · cases h
  · exact isOfPeer_of_bind (fun _ => isOfPeer_of_decodeReply)
      (fun _ _ => isOfPeer_of_capacityReply) h
  all_goals first
    | cases h
    | exact isOfPeer_of_map (fun _ => isOfPeer_of_decodeReply) h

/-- Clients tell of the receiving host, and of nothing else. -/
theorem Fails.isOfPeer (fails : Fails e) : e.isOfPeer = true := by
  rcases fails with ⟨c, r, x, h⟩ | ⟨server, addresses, port, request, incoming, h⟩
  · cases x with
    | response status body =>
      simp only [interpret] at h
      split at h
      · exact isOfPeer_of_reply h
      · cases h
        rfl
    | unreachable | hungUp | silent =>
      cases h
      rfl
  · cases addresses <;> cases h
    rfl

end PeerClient

end VmControl
