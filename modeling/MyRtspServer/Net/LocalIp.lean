import MyRtspServer.Net.UdpSetup
import MyRtspServer.Net.UrlRoundTrip
import MyRtspServer.Net.SdpContent

/-!
# `Sockets::GetLocalIp`

The lookup opens a socket, asks for the interfaces and walks over the answer. It
closes the socket where a call fails and nowhere else; the pointer moves on only
behind an `AF_INET` entry, so an entry of another family is looked at until the
rounds are used up.
-/
namespace MyRtspServer.Net

open Library Library.Octets Library.Scan SocketCall

/-- `AF_INET`. -/
abbrev afInet : UInt16 := 2

/-- `sizeof(struct ifreq)`. -/
abbrev sizeofIfreq : Nat := 40

/-- One entry of the answer. `ifr_flags` shares its bytes with the family of the
address. -/
structure Ifreq where
  name : Octets
  family : UInt16
  addr : InAddr

/-- The answer of `SIOCGIFCONF`: whole entries, as many as `buf[512]` has room for. -/
structure Ifconf where
  entries : List Ifreq
  fits : sizeofIfreq * entries.length ≤ 512

/-- `ifc_len`. -/
def Ifconf.len (ifc : Ifconf) : Nat := sizeofIfreq * ifc.entries.length

/-- What the kernel answers to one lookup: the socket, then the interfaces. -/
structure IpWorld where
  sockfd : Option Nat
  ifconf : Option Ifconf

/-- The loop, `left` rounds of it, with `ifr` at the first of these entries. Behind
the last one the buffer is all zero. -/
def localIpRounds : Nat → List Ifreq → Option InAddr
  | 0, _ => none
  | left + 1, [] => localIpRounds left []
  | left + 1, ifr :: rest =>
    if ifr.family = afInet then
      if ifr.name ≠ ascii "lo" then some ifr.addr else localIpRounds left rest
    else localIpRounds left (ifr :: rest)

/-- `GetLocalIp`, with its calls. `close(-1)` closes nothing. -/
def getLocalIp (w : IpWorld) : Octets × List SocketCall :=
  match w.sockfd with
  | none => (ascii "0.0.0.0", [])
  | some sockfd =>
    match w.ifconf with
    | none => (ascii "0.0.0.0", [.socket sockfd, .close sockfd])
    | some ifc =>
      match localIpRounds (ifc.len / sizeofIfreq) ifc.entries with
      | some addr => (inetNtoa addr, [.socket sockfd])
      | none => (ascii "0.0.0.0", [.socket sockfd])

/-! ## What a lookup is for -/

/-- An address that others can reach. -/
def Ifreq.wanted (ifr : Ifreq) : Bool := decide (ifr.family = afInet ∧ ifr.name ≠ ascii "lo")

def Ifreq.isInet (ifr : Ifreq) : Bool := decide (ifr.family = afInet)

def ipText : Option InAddr → Octets
  | some addr => inetNtoa addr
  | none => ascii "0.0.0.0"

namespace IpWorld

/-- One of the two calls fails. -/
def Fails (w : IpWorld) : Prop := w.sockfd = none ∨ w.ifconf = none

/-- The entries that are walked over. -/
def entries (w : IpWorld) : List Ifreq :=
  match w.sockfd, w.ifconf with
  | some _, some ifc => ifc.entries
  | _, _ => []

/-- The address of the first wanted entry, or `0.0.0.0`. -/
def ip (w : IpWorld) : Octets := ipText ((w.entries.find? Ifreq.wanted).map Ifreq.addr)

/-- The socket behind the return, when nothing has closed it. -/
def keptSocket (w : IpWorld) : Option Nat :=
  match w.ifconf with
  | some _ => w.sockfd
  | none => none

/-- No entry of another family stands in front of the first wanted one, unless its
address is `0.0.0.0`. -/
def InetInFront (w : IpWorld) : Prop :=
  ∀ ifr, w.entries.find? Ifreq.wanted = some ifr →
    (w.entries.takeWhile Ifreq.isInet).find? Ifreq.wanted = some ifr ∨ ifr.addr = ⟨0, 0, 0, 0⟩

end IpWorld

/-- Nothing more is open behind these calls than in front of them, and nothing less. -/
def LeaksNothing (calls : List SocketCall) : Prop :=
  ∀ opened, stillOpen calls opened = some opened

/-- What is asked of a lookup: the right address, and the probing socket closed. -/
def LookupMeets (w : IpWorld) : Prop := (getLocalIp w).1 = w.ip ∧ LeaksNothing (getLocalIp w).2

/-! ## The text of an address -/

theorem dot_not_mem_dec (n : Nat) : (46 : UInt8) ∉ dec n := fun h => by
  have := dec_isDigit h
  cases this

theorem dec_octet_injective {b b' : UInt8} (h : dec b.toNat = dec b'.toNat) : b = b' := by
  apply UInt8.toNat_inj.mp
  rw [← decValue_dec b.toNat, h, decValue_dec]

/-- `inet_ntoa` writes different addresses differently. -/
theorem inetNtoa_injective {addr addr' : InAddr} (h : inetNtoa addr = inetNtoa addr') :
    addr = addr' := by
  unfold inetNtoa at h
  obtain ⟨h1, h⟩ := cut_unique (dot_not_mem_dec _) (dot_not_mem_dec _) h
  obtain ⟨h2, h⟩ := cut_unique (dot_not_mem_dec _) (dot_not_mem_dec _) h
  obtain ⟨h3, h4⟩ := cut_unique (dot_not_mem_dec _) (dot_not_mem_dec _) h
  cases addr
  cases addr'
  rw [InAddr.mk.injEq]
  exact ⟨dec_octet_injective h1, dec_octet_injective h2, dec_octet_injective h3,
    dec_octet_injective h4⟩

theorem ipText_none : ipText none = inetNtoa ⟨0, 0, 0, 0⟩ := by decide

/-! ## The loop -/

theorem localIpRounds_nil : ∀ left, localIpRounds left [] = none
  | 0 => rfl
  | left + 1 => localIpRounds_nil left

/-- An entry of another family uses up the rounds. -/
theorem localIpRounds_stuck {ifr : Ifreq} (h : ifr.family ≠ afInet) (rest : List Ifreq) :
    ∀ left, localIpRounds left (ifr :: rest) = none
  | 0 => rfl
  | left + 1 => by
    rw [localIpRounds, if_neg h]
    exact localIpRounds_stuck h rest left

/-- **The loop sees the entries up to the first of another family.** -/
theorem localIpRounds_eq (entries : List Ifreq) : ∀ left, entries.length ≤ left →
    localIpRounds left entries =
      ((entries.takeWhile Ifreq.isInet).find? Ifreq.wanted).map Ifreq.addr := by
  induction entries with
  | nil => exact fun left _ => localIpRounds_nil left
  | cons ifr rest ih =>
    intro left hleft
    obtain ⟨left, rfl⟩ : ∃ k, left = k + 1 :=
      Nat.exists_eq_succ_of_ne_zero (Nat.ne_of_gt (Nat.lt_of_lt_of_le (Nat.succ_pos _) hleft))
    by_cases hfamily : ifr.family = afInet
    · have hinet : ifr.isInet = true := decide_eq_true hfamily
      rw [localIpRounds, if_pos hfamily, List.takeWhile_cons_of_pos hinet]
      by_cases hname : ifr.name ≠ ascii "lo"
      · have hwanted : ifr.wanted = true := decide_eq_true ⟨hfamily, hname⟩
        rw [if_pos hname, List.find?_cons_of_pos hwanted]
        rfl
      · have hskip : ¬ ifr.wanted = true := fun h => hname (of_decide_eq_true h).2
        rw [if_neg hname, List.find?_cons_of_neg hskip]
        exact ih left (Nat.le_of_succ_le_succ hleft)
    · have hstop : ¬ ifr.isInet = true := fun h => hfamily (of_decide_eq_true h)
      rw [localIpRounds_stuck hfamily, List.takeWhile_cons_of_neg hstop]
      rfl

/-- What the walk finds is among the entries it should look at. -/
theorem find_of_takeWhile {entries : List Ifreq} {ifr : Ifreq}
    (h : (entries.takeWhile Ifreq.isInet).find? Ifreq.wanted = some ifr) :
    entries.find? Ifreq.wanted = some ifr := by
  rw [← List.takeWhile_append_dropWhile (p := Ifreq.isInet) (l := entries), List.find?_append, h]
  rfl

/-! ## One lookup -/

theorem getLocalIp_ip (w : IpWorld) : (getLocalIp w).1 =
    ipText (((w.entries.takeWhile Ifreq.isInet).find? Ifreq.wanted).map Ifreq.addr) := by
  rw [getLocalIp, IpWorld.entries]
  cases w.sockfd with
  | none => rfl
  | some sockfd =>
    cases w.ifconf with
    | none => rfl
    | some ifc =>
      have hrounds : ifc.len / sizeofIfreq = ifc.entries.length :=
        Nat.mul_div_cancel_left _ (by decide)
      simp only [hrounds, localIpRounds_eq _ _ (Nat.le_refl _)]
      cases (ifc.entries.takeWhile Ifreq.isInet).find? Ifreq.wanted with
      | none => rfl
      | some ifr => rfl

/-- The calls: the socket is closed where a call fails. -/
theorem getLocalIp_calls (w : IpWorld) (opened : List Nat) :
    stillOpen (getLocalIp w).2 opened = some (w.keptSocket.toList ++ opened) := by
  rw [getLocalIp, IpWorld.keptSocket]
  cases w.sockfd with
  | none => cases w.ifconf <;> rfl
  | some sockfd =>
    cases w.ifconf with
    | none => simp [stillOpen, run]
    | some ifc =>
      dsimp only
      cases localIpRounds (ifc.len / sizeofIfreq) ifc.entries with
      | none => rfl
      | some addr => rfl

theorem getLocalIp_right_iff (w : IpWorld) : (getLocalIp w).1 = w.ip ↔ w.InetInFront := by
  rw [getLocalIp_ip, IpWorld.ip, IpWorld.InetInFront]
  cases hwalked : (w.entries.takeWhile Ifreq.isInet).find? Ifreq.wanted with
  | some ifr =>
    rw [find_of_takeWhile hwalked]
    simp
  | none =>
    cases w.entries.find? Ifreq.wanted with
    | none => simp
    | some ifr =>
      constructor
      · intro h other hother
        obtain rfl := Option.some.inj hother
        exact Or.inr (inetNtoa_injective (h.symm.trans ipText_none))
      · intro h
        have haddr := (h ifr rfl).resolve_left (by simp)
        rw [Option.map_none, Option.map_some, haddr]
        exact ipText_none

theorem getLocalIp_leaksNothing_iff (w : IpWorld) :
    LeaksNothing (getLocalIp w).2 ↔ w.Fails := by
  unfold LeaksNothing IpWorld.Fails
  simp only [getLocalIp_calls, IpWorld.keptSocket]
  cases w.sockfd with
  | none => cases w.ifconf <;> simp
  | some sockfd =>
    cases w.ifconf with
    | none => simp
    | some ifc => simp

theorem IpWorld.Fails.inetInFront {w : IpWorld} (h : w.Fails) : w.InetInFront := by
  have hentries : w.entries = [] := by
    rw [IpWorld.entries]
    rcases h with h | h
    · rw [h]
    · rw [h]
      cases w.sockfd with
      | none => rfl
      | some sockfd => rfl
  intro ifr hfind
  rw [hentries] at hfind
  cases hfind

/-- **A lookup closes its socket exactly when one of its calls fails**, and finds the
right address exactly when no entry of another family is in the way. -/
theorem getLocalIp_meets_iff (w : IpWorld) :
    (LookupMeets w ↔ w.Fails) ∧ (LeaksNothing (getLocalIp w).2 ↔ w.Fails) ∧
      ((getLocalIp w).1 = w.ip ↔ w.InetInFront) := by
  refine ⟨?_, getLocalIp_leaksNothing_iff w, getLocalIp_right_iff w⟩
  rw [LookupMeets, getLocalIp_right_iff, getLocalIp_leaksNothing_iff]
  exact ⟨And.right, fun h => ⟨h.inetInFront, h⟩⟩

/-- The loopback interface and one other. -/
def twoInterfaces : IpWorld :=
  { sockfd := some 7
    ifconf := some ⟨[⟨ascii "lo", afInet, ⟨127, 0, 0, 1⟩⟩, ⟨ascii "eth0", afInet, ⟨10, 0, 0, 1⟩⟩],
      by decide⟩ }

/-- The same behind an `AF_INET6` entry. -/
def inet6InFront : IpWorld :=
  { sockfd := some 7
    ifconf := some ⟨[⟨ascii "eth0", 10, ⟨0, 0, 0, 0⟩⟩, ⟨ascii "eth0", afInet, ⟨10, 0, 0, 1⟩⟩],
      by decide⟩ }

/-- The ordinary lookup keeps its socket; behind another family it finds no address
either. -/
theorem getLocalIp_leaks : ¬ LookupMeets twoInterfaces ∧
    (getLocalIp twoInterfaces).1 = ascii "10.0.0.1" ∧
      ¬ LookupMeets inet6InFront ∧ (getLocalIp inet6InFront).1 = ascii "0.0.0.0" ∧
        inet6InFront.ip = ascii "10.0.0.1" := by
  have hopen : ∀ w : IpWorld, stillOpen (getLocalIp w).2 [] = some [7] → ¬ LookupMeets w := by
    intro w hleft hmeets
    rw [hmeets.2 []] at hleft
    cases hleft
  exact ⟨hopen _ (by decide), by decide, hopen _ (by decide), by decide, by decide⟩

/-! ## Many lookups -/

/-- The sockets that lookups keep, the last one first. -/
def keptSockets (ws : List IpWorld) : List Nat := (ws.filterMap IpWorld.keptSocket).reverse

/-- **Every lookup that succeeds keeps a socket**: none is closed by a later one. -/
theorem lookups_stillOpen (ws : List IpWorld) : ∀ opened,
    stillOpen (ws.flatMap fun w => (getLocalIp w).2) opened = some (keptSockets ws ++ opened) := by
  induction ws with
  | nil => exact fun _ => rfl
  | cons w ws ih =>
    intro opened
    rw [List.flatMap_cons, stillOpen_append, getLocalIp_calls, Option.bind_some, ih]
    cases hkept : w.keptSocket with
    | none => simp [keptSockets, hkept]
    | some sockfd => simp [keptSockets, hkept]

/-- Whatever the kernel answers, the address is a dotted one. -/
theorem getLocalIp_dotted (w : IpWorld) : IsDotted (getLocalIp w).1 := by
  have haddr : ∀ addr : InAddr, IsDotted (inetNtoa addr) := fun addr =>
    ⟨⟨addr.byte1, addr.byte2, addr.byte3, addr.byte4⟩, by
      simp [inetNtoa, Ipv4.text, ascii]⟩
  rw [getLocalIp_ip]
  cases ((w.entries.takeWhile Ifreq.isInet).find? Ifreq.wanted).map Ifreq.addr with
  | some addr => exact haddr addr
  | none => exact ipText_none ▸ haddr ⟨0, 0, 0, 0⟩

end MyRtspServer.Net
