import ZoneGuard.Text.Blank

/-!
# Attributes

The closed enumerations that describe zones, data, systems and connections. Every member has an
atom, the name it bears in a specification, and may have further spellings. A spelling is looked up
exactly first and then without regard to the case of ASCII letters; blanks around it do not count.
-/

namespace ZoneGuard

/-- An enumeration whose members are atoms of one signature. -/
class Attribute (α : Type) where
  /-- The signature that the atoms extend. -/
  signature : String
  /-- All members, in order. -/
  all : List α
  /-- The name of a member in a specification. -/
  atom : α → String
  /-- Further spellings that are read as the member. -/
  aliases : α → List String

namespace Attribute

variable {α : Type} [Attribute α]

/-- The spellings of a member, its atom first. -/
def spellings (a : α) : List String := atom a :: aliases a

/-- Whether two texts agree up to the case of ASCII letters. -/
def sameIgnoringCase (s t : String) : Bool :=
  s.toList.map Char.toLower == t.toList.map Char.toLower

/-- The member with the given spelling. An exact spelling of any member comes before one that
differs in case. -/
def ofSpelling? (s : String) : Option α :=
  let s := Text.trim s
  match all.find? fun a : α => (spellings a).contains s with
  | some a => some a
  | none => all.find? fun a : α => (spellings a).any (sameIgnoringCase s)

end Attribute

/-- A security grade. Later grades demand more protection. -/
inductive Grade where
  | «open»
  | sensitive
  | classified
deriving DecidableEq, Repr

namespace Grade

/-- The place of the grade in the order of protection. -/
def rank : Grade → Nat
  | .open => 0
  | .sensitive => 1
  | .classified => 2

instance : LE Grade := ⟨fun a b => a.rank ≤ b.rank⟩

instance : LT Grade := ⟨fun a b => a.rank < b.rank⟩

instance (a b : Grade) : Decidable (a ≤ b) := inferInstanceAs (Decidable (a.rank ≤ b.rank))

instance (a b : Grade) : Decidable (a < b) := inferInstanceAs (Decidable (a.rank < b.rank))

def isCritical (g : Grade) : Bool := decide (sensitive ≤ g)

end Grade

instance : Attribute Grade where
  signature := "Grade"
  all := [.open, .sensitive, .classified]
  atom
    | .open => "Open"
    | .sensitive => "Sensitive"
    | .classified => "Classified"
  aliases _ := []

/-- The kind of network that a zone is. -/
inductive ZoneType where
  | internet
  | intranet
  | dmz
  | wireless
  | cloud
deriving DecidableEq, Repr

/-- Whether the zone can be reached from outside the organisation. -/
def ZoneType.isExternal : ZoneType → Bool
  | .internet | .dmz | .cloud => true
  | .intranet | .wireless => false

instance : Attribute ZoneType where
  signature := "ZoneType"
  all := [.internet, .intranet, .dmz, .wireless, .cloud]
  atom
    | .internet => "Internet"
    | .intranet => "Intranet"
    | .dmz => "DMZ"
    | .wireless => "Wireless"
    | .cloud => "Cloud"
  aliases _ := []

/-- What a data asset contains. -/
inductive ContentType where
  | document
  | executable
  | media
  | archive
  | database
deriving DecidableEq, Repr

instance : Attribute ContentType where
  signature := "ContentType"
  all := [.document, .executable, .media, .archive, .database]
  atom
    | .document => "Document"
    | .executable => "Executable"
    | .media => "Media"
    | .archive => "Archive"
    | .database => "Database"
  aliases _ := []

/-- What a system is used as. -/
inductive SystemType where
  | server
  | pc
  | terminal
  | mobile
  | securityDevice
  | gateway
  | iot
deriving DecidableEq, Repr

instance : Attribute SystemType where
  signature := "SystemType"
  all := [.server, .pc, .terminal, .mobile, .securityDevice, .gateway, .iot]
  atom
    | .server => "Server"
    | .pc => "PC"
    | .terminal => "Terminal"
    | .mobile => "Mobile"
    | .securityDevice => "SecurityDevice"
    | .gateway => "Gateway"
    | .iot => "IoT"
  aliases _ := []

/-- How users of a system authenticate. Atoms of one specification are distinct, so the member for
no authentication does not bear the plain name `None`, which it shares with `Isolation`. -/
inductive AuthType where
  | noAuth
  | single
  | idPassword
  | multiFactor
deriving DecidableEq, Repr

instance : Attribute AuthType where
  signature := "AuthType"
  all := [.noAuth, .single, .idPassword, .multiFactor]
  atom
    | .noAuth => "AuthNone"
    | .single => "Single"
    | .idPassword => "ID_PW"
    | .multiFactor => "MFA"
  aliases
    | .noAuth => ["None"]
    | .idPassword => ["IDPW"]
    | _ => []

/-- How a system is isolated from the network. -/
inductive Isolation where
  | noIsolation
  | virtualDesktop
  | remoteBrowser
  | airGap
deriving DecidableEq, Repr

instance : Attribute Isolation where
  signature := "Isolation"
  all := [.noIsolation, .virtualDesktop, .remoteBrowser, .airGap]
  atom
    | .noIsolation => "IsolationNone"
    | .virtualDesktop => "VDI"
    | .remoteBrowser => "RBI"
    | .airGap => "AirGap"
  aliases
    | .noIsolation => ["None"]
    | _ => []

/-- Whether the patches of a system are current. -/
inductive PatchStatus where
  | upToDate
  | vulnerable
deriving DecidableEq, Repr

instance : Attribute PatchStatus where
  signature := "PatchStatus"
  all := [.upToDate, .vulnerable]
  atom
    | .upToDate => "UpToDate"
    | .vulnerable => "Vulnerable"
  aliases _ := []

/-- Whether a system is still supported. -/
inductive LifeCycle where
  | active
  | endOfLife
deriving DecidableEq, Repr

instance : Attribute LifeCycle where
  signature := "LifeCycle"
  all := [.active, .endOfLife]
  atom
    | .active => "Active"
    | .endOfLife => "EOL"
  aliases _ := []

/-- How a system limits the sessions of its users. -/
inductive SessionPolicy where
  | unlimited
  | timeoutOnly
  | strict
deriving DecidableEq, Repr

instance : Attribute SessionPolicy where
  signature := "SessionPolicy"
  all := [.unlimited, .timeoutOnly, .strict]
  atom
    | .unlimited => "Unsafe"
    | .timeoutOnly => "Timeout_Only"
    | .strict => "Strict_Timeout_Concurrency"
  aliases _ := []

/-- The protocol that a connection speaks. -/
inductive Protocol where
  | http
  | https
  | ssh
  | ftp
  | sftp
  | telnet
  | tcp
  | udp
  | vpn
deriving DecidableEq, Repr

instance : Attribute Protocol where
  signature := "Protocol"
  all := [.http, .https, .ssh, .ftp, .sftp, .telnet, .tcp, .udp, .vpn]
  atom
    | .http => "HTTP"
    | .https => "HTTPS"
    | .ssh => "SSH"
    | .ftp => "FTP"
    | .sftp => "SFTP"
    | .telnet => "Telnet"
    | .tcp => "TCP"
    | .udp => "UDP"
    | .vpn => "VPN"
  aliases _ := []

end ZoneGuard
