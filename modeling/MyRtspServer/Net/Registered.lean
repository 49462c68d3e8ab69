import MyRtspServer.Net.Ownership

/-!
# Connections between two actions

A connection is registered under its own descriptor, and nothing waits in its
output buffer: every `SendMessage` empties it.
-/
namespace MyRtspServer.Net

open Library Library.Octets Library.Transition

structure Registered (s : Server) : Prop where
  sockFd : ∀ {fd conn}, s.connections.lookup fd = some conn → conn.rtsp.sockFd = fd
  outputBuffer : ∀ {fd conn}, s.connections.lookup fd = some conn → conn.rtsp.outputBuffer = []

theorem registered_empty : Registered {} := by
  constructor
  · intro fd conn h
    cases h
  · intro fd conn h
    cases h

namespace Registered

/-- Fewer connections, or other shared data. -/
theorem mono {s s' : Server} (h : Registered s)
    (hsub : ∀ {fd conn}, s'.connections.lookup fd = some conn →
      s.connections.lookup fd = some conn) : Registered s' :=
  ⟨fun hc => h.sockFd (hsub hc), fun hc => h.outputBuffer (hsub hc)⟩

/-- One connection is put in, or put back. -/
theorem insert {s : Server} (h : Registered s) {m : Media} {list : List Nat} {sockfd : Nat}
    {conn : Connection} (hfd : conn.rtsp.sockFd = sockfd) (hout : conn.rtsp.outputBuffer = []) :
    Registered ⟨m, s.connections.insert sockfd conn, list⟩ := by
  have hcases : ∀ {fd other}, (s.connections.insert sockfd conn).lookup fd = some other →
      (fd = sockfd ∧ other = conn) ∨ s.connections.lookup fd = some other := by
    intro fd other hc
    by_cases heq : fd = sockfd
    · subst heq
      rw [AList.lookup_insert] at hc
      exact Or.inl ⟨rfl, (Option.some.inj hc).symm⟩
    · rw [AList.lookup_insert_ne heq] at hc
      exact Or.inr hc
  constructor
  · intro fd other hc
    rcases hcases hc with ⟨rfl, rfl⟩ | hold
    · exact hfd
    · exact h.sockFd hold
  · intro fd other hc
    rcases hcases hc with ⟨rfl, rfl⟩ | hold
    · exact hout
    · exact h.outputBuffer hold

end Registered

namespace Connection

theorem ReadOutcome.sockFd {w : World} {m : Media} {c : Connection} {bytes : Octets}
    {r : ReadResult} (h : ReadOutcome w m c bytes r) : r.conn.rtsp.sockFd = c.rtsp.sockFd := by
  cases h with
  | unhandled media slots sockFd outputBuffer effects => exact sockFd
  | handled request buffer handled parsed handler result =>
    rw [result]
    exact (RtspConnection.handleCmd_keeps handler).sockFd

theorem ReadOutcome.outputBuffer {w : World} {m : Media} {c : Connection} {bytes : Octets}
    {r : ReadResult} (h : ReadOutcome w m c bytes r) (hout : c.rtsp.outputBuffer = []) :
    r.conn.rtsp.outputBuffer = [] := by
  cases h with
  | unhandled media slots sockFd outputBuffer effects => exact outputBuffer.trans hout
  | handled request buffer handled parsed handler result =>
    rw [result]
    exact (RtspConnection.handleCmd_keeps handler).outputBuffer hout

end Connection

namespace Server

/-- **Every action keeps the connections registered.** -/
theorem step_registered {s s' : Server} {act : ServerAct} {effects : List Effect}
    (h : Registered s) (hstep : s.step act = .ok (s', effects)) : Registered s' := by
  cases step_outcome hstep with
  | ignored => exact h
  | session => exact h.mono id
  | sink => exact h.mono id
  | multicast => exact h.mono id
  | accept connfd peer new => exact h.insert rfl rfl
  | read sockfd bytes w conn r reported outcome =>
    obtain ⟨hlookup, -⟩ := readable_some reported
    exact h.insert (outcome.sockFd.trans (h.sockFd hlookup))
      (outcome.outputBuffer (h.outputBuffer hlookup))
  | hangup => exact h.mono id
  | trigger s'' effects destroyed =>
    refine h.mono fun {fd conn} hc => ?_
    have hlookup := destroyAll_connections destroyed fd
    change s''.connections.lookup fd = some conn at hc
    rw [hlookup] at hc
    split at hc
    · cases hc
    · exact hc
  | packet => exact h

theorem run_registered {acts : List ServerAct} {s : Server} {effects : List Effect}
    (hrun : run step {} acts = .ok (s, effects)) : Registered s :=
  run_invariant Registered (fun _ _ _ _ h _ hstep => step_registered h hstep) registered_empty
    meets_true hrun

end Server
end MyRtspServer.Net
