import ClusterKeeper.Data.Yaml.Scalar
import ClusterKeeper.Data.Yaml.Tag
/-!
The tokens of YAML texts.

Some are written as such, others follow from the layout: that a block begins or ends, and that what
stands before a colon is a key.
-/

namespace ClusterKeeper.Yaml

inductive Token where
  | directive (directive : Directive)
  | documentStart
  | documentEnd
  /-- A sequence of items behind dashes begins. -/
  | blockSequence
  /-- A mapping outside brackets begins. -/
  | blockMapping
  /-- The innermost of these ends. -/
  | blockEnd
  /-- A dash before an item. -/
  | dash
  | openSequence
  | closeSequence
  | openMapping
  | closeMapping
  | comma
  /-- A key follows. -/
  | key
  /-- A value follows. -/
  | value
  | anchor (name : String)
  /-- The node that has been given a name. -/
  | reference (name : String)
  | tag (name : TagName)
  | scalar (scalar : Scalar)
  deriving Repr, DecidableEq

end ClusterKeeper.Yaml
