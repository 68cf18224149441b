namespace OfflineSite

/-- Why a text is not a URL. -/
inductive UrlFailure where
  /-- There is no scheme and nothing to be relative to. -/
  | relativeWithoutBase
  /-- The base has a path that cannot be changed piece by piece. -/
  | relativeToOpaque
  | emptyHost
  | port
  | ipv4
  | ipv6
  /-- The host is no domain name, or holds a character that no host may hold. -/
  | domain
  /-- A host that is not looked into holds a character that it may not hold. -/
  | opaqueHost
  deriving Repr, DecidableEq

def UrlFailure.message : UrlFailure → String
  | relativeWithoutBase => "relative URL without a base"
  | relativeToOpaque => "relative URL with a cannot-be-a-base base"
  | emptyHost => "empty host"
  | port => "invalid port number"
  | ipv4 => "invalid IPv4 address"
  | ipv6 => "invalid IPv6 address"
  | domain => "invalid international domain name"
  | opaqueHost => "invalid domain character"

end OfflineSite
