import MyRtspServer.Net.Handlers

/-!
# What SETUP looks up

SETUP looks up the session of its own URL, and asks the session that was described
last whether it is multicast. `SetupAnswer` is the inversion of `HandleCmdSetup`
with all that it has found on the way.
-/
namespace MyRtspServer.Net

open Library Library.Octets

/-- The lookups of a SETUP that is not refused. -/
structure SetupFound (m : Media) (c : RtspConnection) (name : Octets) (session : MediaSession)
    (track : TrackId) (described : Octets) (describedSession : MediaSession) : Prop where
  named : RtspConnection.sessionNameOf c.request.suffix = .ok (some name)
  registered : m.sessions.lookup name = some session
  asked : c.request.trackId = some track
  rtpFree : c.rtpInstances track = none
  rtcpFree : c.rtcpInstances track = none
  remembered : c.session = some described
  described : m.sessions.lookup described = some describedSession

namespace RtspConnection

/-- The answers of SETUP. -/
inductive SetupAnswer (w : World) (m : Media) (c : RtspConnection) : Handled → Prop
  | refused : SetupAnswer w m c ⟨false, m, c, []⟩
  | multicast (name session track described describedSession port)
      (found : SetupFound m c name session track described describedSession)
      (group : describedSession.isStartMulticast = true)
      (dest : session.getMulticastDestRtpPort m.rtpInstances track = .ok port) :
      SetupAnswer w m c
        (respond w m c (c.setupMulticastText session.getMulticastDestAddr w.localIp port))
  | overTcp (name session track described describedSession)
      (found : SetupFound m c name session track described describedSession)
      (unicast : describedSession.isStartMulticast = false)
      (tcp : c.request.isRtpOverTcp = true) :
      SetupAnswer w m c (setupOverTcp w m c name session track)
  | overUdp (name session track described describedSession)
      (found : SetupFound m c name session track described describedSession)
      (unicast : describedSession.isStartMulticast = false)
      (udp : c.request.isRtpOverTcp = false) :
      SetupAnswer w m c (setupOverUdp w m c name session track)

theorem handleCmdSetup_answer {w : World} {m : Media} {c : RtspConnection} {r : Handled}
    (h : handleCmdSetup w m c = .ok r) : SetupAnswer w m c r := by
  unfold handleCmdSetup at h
  split at h
  · cases h
  · cases h
    exact .refused
  rename_i name hname
  split at h
  · cases h
    exact .refused
  rename_i session hsession
  split at h
  · cases h
  rename_i track htrack
  split at h
  · cases h
    exact .refused
  rename_i hslots
  rw [not_or, Bool.not_eq_true, Bool.not_eq_true, Option.isSome_eq_false_iff,
    Option.isSome_eq_false_iff, Option.isNone_iff_eq_none, Option.isNone_iff_eq_none] at hslots
  split at h
  · cases h
  rename_i described hdescribed
  split at h
  · cases h
  rename_i describedSession hlookup
  have hfound : SetupFound m c name session track described describedSession :=
    ⟨hname, hsession, htrack, hslots.1, hslots.2, hdescribed, hlookup⟩
  split at h
  · split at h <;> cases h
    exact .multicast name session track described describedSession _ hfound ‹_› ‹_›
  · rename_i hunicast
    rw [Bool.not_eq_true] at hunicast
    split at h <;> cases h
    · exact .overTcp name session track described describedSession hfound hunicast ‹_›
    · exact .overUdp name session track described describedSession hfound hunicast
        (Bool.eq_false_of_not_eq_true ‹_›)

end RtspConnection
end MyRtspServer.Net
