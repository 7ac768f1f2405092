import DefaultGateway.Text.Quoted

/-!
The reasons why a text is not the value it should be.
-/

namespace DefaultGateway

inductive ParseError
  | address (text : String)
  /-- The text is no address and length around a slash. -/
  | shape (text : String)
  /-- The length of a prefix exceeds the width of its address. -/
  | length (given widest : Nat)
  | family (text : String)
  | protocol (text : String)
  deriving DecidableEq, Repr

def ParseError.message : ParseError → String
  | .address text => "invalid IP address format: " ++ text
  | .shape text => "invalid IP prefix format: " ++ text
  | .length given widest =>
    s!"invalid IP prefix format: prefix length {given} exceeds maximum {widest} for address type"
  | .family text => s!"unknown address family: {text} (expected inet or inet6)"
  | .protocol text =>
    s!"invalid protocol tag: {Text.quoted text} (expected lowercase [a-z0-9_-]+)"

end DefaultGateway
