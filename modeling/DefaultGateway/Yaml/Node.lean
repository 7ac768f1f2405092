import DefaultGateway.Yaml.Token

/-!
The value that a YAML stream describes.
-/

namespace DefaultGateway.Yaml

/-- A node; the number by which aliases refer to it stands first, if there is one. -/
inductive Node
  | scalar (anchor : Option Nat) (text : String) (style : Style) (tag : Option TagText)
  | sequence (anchor : Option Nat) (items : List Node)
  | mapping (anchor : Option Nat) (entries : List (Node × Node))
  | alias (anchor : Nat)
  /-- What a stream without a document describes. -/
  | absent

namespace Node

/-- Nothing where a value could stand. -/
def blank (anchor : Option Nat := none) (tag : Option TagText := none) : Node :=
  .scalar anchor "" .plain tag

/-- The last node, in the order of the stream, that an alias refers to. -/
def anchored? (wanted : Nat) : Node → Option Node
  | node@(.scalar anchor ..) => if anchor = some wanted then some node else none
  | node@(.sequence anchor items) =>
    (anchoredIn? wanted items).or (if anchor = some wanted then some node else none)
  | node@(.mapping anchor entries) =>
    (anchoredAmong? wanted entries).or (if anchor = some wanted then some node else none)
  | .alias _ | .absent => none
where
  anchoredIn? (wanted : Nat) : List Node → Option Node
    | [] => none
    | node :: rest => (anchoredIn? wanted rest).or (anchored? wanted node)
  anchoredAmong? (wanted : Nat) : List (Node × Node) → Option Node
    | [] => none
    | (key, value) :: rest =>
      (anchoredAmong? wanted rest).or <| (anchored? wanted value).or (anchored? wanted key)

end Node

end DefaultGateway.Yaml
