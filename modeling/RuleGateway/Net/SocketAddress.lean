import RuleGateway.Net.Ip

/-!
# Socket addresses

An address to listen on: an internet address and a port. Longer addresses stand
in brackets and may name a scope. The written form is normal, so leading zeros
of a port and zero scopes disappear.
-/

namespace RuleGateway

/-- An address and a port. -/
inductive SocketAddress where
  | v4 (address : Nat) (port : Nat)
  | v6 (pieces : List Nat) (scope : Nat) (port : Nat)
  deriving DecidableEq, Repr

namespace SocketAddress

/-- A decimal number below a bound. -/
def below? (bound : Nat) (text : Text) : Option Nat :=
  (Text.decimal? text).filter (· < bound)

/-- The text before the last occurrence of `c` and the text after it. -/
def cutAtLast (c : Char) (text : Text) : Option (Text × Text) :=
  let back := text.reverse
  match back.dropWhile (· != c) with
  | [] => none
  | _ :: left => some (left.reverse, (back.takeWhile (· != c)).reverse)

/-- The address and the scope between brackets. -/
def bracketed? (text : Text) : Option (List Nat × Nat) :=
  match text.dropWhile (· != '%') with
  | [] => (Ip.v6? text).map (·, 0)
  | _ :: scope => do
    pure (← Ip.v6? (text.takeWhile (· != '%')), ← below? (Nat.pow 2 32) scope)

/-- The socket address that a text is. -/
def parse? (text : Text) : Option SocketAddress := do
  let (host, port) ← cutAtLast ':' text
  let port ← below? (Nat.pow 2 16) port
  match host with
  | '[' :: rest =>
    if Text.endsWith rest ']' then
      let (pieces, scope) ← bracketed? rest.dropLast
      some (.v6 pieces scope port)
    else none
  | _ => (Ip.v4? host).map (.v4 · port)

/-- What is said of a text that is no socket address. -/
def problem : Text := "invalid socket address syntax"

/-- The address inside the brackets. An address that stands for one of four
bytes shows it in dotted form. -/
def renderPieces (pieces : List Nat) : Text :=
  match pieces with
  | [0, 0, 0, 0, 0, 0xFFFF, high, low] => "::ffff:".toList ++ Ip.renderV4 (high * 65536 + low)
  | _ => Ip.renderV6 pieces

/-- The normal form of a socket address. -/
def render : SocketAddress → Text
  | v4 address port => Ip.renderV4 address ++ ':' :: Text.ofNat port
  | v6 pieces scope port =>
    '[' :: renderPieces pieces ++ (if scope = 0 then [] else '%' :: Text.ofNat scope) ++
      [']', ':'] ++ Text.ofNat port

end SocketAddress

end RuleGateway
