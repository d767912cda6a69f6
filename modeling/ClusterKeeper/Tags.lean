import ClusterKeeper.Resource.Cluster
import ClusterKeeper.Text.Split
/-!
Tags of a cluster.

The spec gives them as a list; where it has none, an annotation may give them as a text, separated
by commas or line ends. Where neither is there, tags are not managed. Tags are compared as sets.
-/

namespace ClusterKeeper.Tags

def annotation : String := "lke.anza-labs.dev/tags"

/-- What separates tags in a text. -/
def separates (c : Char) : Bool := c == ',' || c == '\r' || c == '\n'

/-- The tags in a text, without the white space around them; blank ones are dropped. -/
def ofChars (text : List Char) : List (List Char) :=
  ((Text.pieces separates text).map Text.trimChars).filter fun tag => !tag.isEmpty

def ofText (text : String) : List String := (ofChars text.toList).map String.ofList

/-- The tags that a cluster is to have; none where its tags are not managed. -/
def desired? (cluster : ClusterDeclaration) : Option (List String) :=
  cluster.spec.tags <|> (cluster.metadata.annotation? annotation).map ofText

/-- The tags as a set: in order and each once. -/
def sorted (tags : List String) : List String := (KeyMap.ofList (tags.map (·, ()))).keys

/-- The tags to be set at the provider, if they are managed and others than those there. -/
def change? (desired : Option (List String)) (remote : List String) : Option (List String) :=
  desired.bind fun tags => if sorted tags = sorted remote then none else some (sorted tags)

end ClusterKeeper.Tags
