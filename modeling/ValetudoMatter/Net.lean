import Mathlib.Data.Finset.Basic
import ValetudoMatter.Lib.Coroutine
import ValetudoMatter.Lib.SortByKey

/-!
# The network interface

`net.rs`: the interface that the bridge uses, which must have an IPv4 and an IPv6 address. `getifaddrs` lists the two as
separate entries with the same name and index.
-/

namespace ValetudoMatter

open Coroutine

structure Ipv4Addr where
  octets : Vector UInt8 4
  deriving DecidableEq, Repr

structure Ipv6Addr where
  segments : Vector UInt16 8
  deriving DecidableEq, Repr

/-- `is_unicast_link_local`: the address is in `fe80::/10`. -/
def Ipv6Addr.isUnicastLinkLocal (addr : Ipv6Addr) : Bool := addr.segments[0] &&& 0xffc0 == 0xfe80

/-- The address of an entry; `other` is one that is of neither version. -/
inductive Address where
  | v4 (address : Ipv4Addr)
  | v6 (address : Ipv6Addr)
  | other
  deriving DecidableEq, Repr

def Address.isIpv4 : Address → Bool
  | .v4 _ => true
  | .v6 _ => false
  | .other => false

/-- The flags that are looked at. -/
inductive InterfaceFlags where
  | up | broadcast | loopback | pointToPoint
  deriving DecidableEq, Repr

/-- An entry of `getifaddrs`. -/
structure Interface where
  name : String
  index : Option UInt32
  flags : Finset InterfaceFlags
  address : Address
  deriving DecidableEq

structure Netif where
  ipv4Addr : Ipv4Addr
  ipv6Addr : Ipv6Addr
  name : String
  index : Option UInt32
  deriving DecidableEq, Repr

inductive IoErrorKind where
  | networkUnreachable | other
  deriving DecidableEq, Repr

structure IoError where
  kind : IoErrorKind
  error : String
  deriving DecidableEq, Repr

def interfaceSuitable (interface : Interface) : Bool :=
  if .loopback ∈ interface.flags ∨ .pointToPoint ∈ interface.flags then false
  else .up ∈ interface.flags ∧ .broadcast ∈ interface.flags

namespace Netif

/-- The key of the sort: link-local IPv6 addresses come first. -/
def sortKey (iface : Interface) : Nat :=
  match iface.address with
  | .v6 addr => if addr.isUnicastLinkLocal then 0 else 1
  | .v4 _ => 1
  | .other => 1

/-- An `unreachable!` that is reached. -/
inductive Panic where
  | unreachable
  deriving DecidableEq, Repr

/-- The closure of `find_map`: the interface of an IPv4 entry and of another entry, if that is an IPv6 entry of it. -/
def pair (ipv4 ipv6 : Interface) : Except Panic (Option Netif) :=
  if ipv6.index ≠ ipv4.index ∨ ipv6.name ≠ ipv4.name then .ok none
  else
    match ipv4.address with
    | .v4 ipv4Addr =>
      match ipv6.address with
      | .v6 ipv6Addr => .ok (some { ipv4Addr := ipv4Addr, ipv6Addr := ipv6Addr, name := ipv4.name, index := ipv4.index })
      | .v4 _ => .ok none
      | .other => .ok none
    | .v6 _ => .error .unreachable
    | .other => .error .unreachable

/-- `Netif::pick`. All matches are looked for, as the rest are counted after the first is taken. -/
def pick (getifaddrs : Except IoError (List Interface)) : Exit IoError Netif :=
  match getifaddrs with
  | .error e => .fail e
  | .ok entries =>
    let interfaces := SortByKey.sortByKey sortKey (entries.filter interfaceSuitable)
    let ipv4Interfaces := interfaces.filter fun iface => iface.address.isIpv4
    match ipv4Interfaces.filterMapM fun ipv4 => interfaces.findSomeM? (pair ipv4) with
    | .error .unreachable => .abort
    | .ok [] => .fail { kind := .networkUnreachable, error := "No suitable network interface found" }
    | .ok (res :: _) => .done res

end Netif

end ValetudoMatter
