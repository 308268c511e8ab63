import RustyValve.Std.NetParser

namespace RustyValve

structure FromStr where
  u16 : Str → Option UInt16
  ipAddr : Str → Option IpAddr
  u16_separator : ∀ {s : Str} {c : Char}, c ∈ s → Separator c → u16 s = none
  ipAddr_separator : ∀ {s : Str} {c : Char}, c ∈ s → Separator c → ipAddr s = none

namespace FromStr

def std : FromStr where
  u16 := u16FromStr
  ipAddr := NetParser.ipAddrFromStr
  u16_separator := u16_rejects
  ipAddr_separator := NetParser.ipAddr_rejects

variable (parse : FromStr)

theorem not_mem_of_u16 {s : Str} {n : UInt16} (h : parse.u16 s = some n) {c : Char}
    (hc : Separator c) : c ∉ s := fun hm => by
  rw [parse.u16_separator hm hc] at h
  cases h

theorem not_mem_of_ipAddr {s : Str} {ip : IpAddr} (h : parse.ipAddr s = some ip) {c : Char}
    (hc : Separator c) : c ∉ s := fun hm => by
  rw [parse.ipAddr_separator hm hc] at h
  cases h

end FromStr

end RustyValve
