/-!
# YAML tokens

What a text is made of once its characters are read. Indentation shows as tokens too: the
start of a block sequence or of a block mapping, and the end of either. A key is announced
by a token of its own, whether or not a question mark stands before it.
-/
namespace MetricFacade.Yaml

/-- A tag as it is written: a handle, which stands for the beginning of the tag, and the rest. -/
structure WrittenTag where
  handle : String
  suffix : String
  deriving Repr, DecidableEq

inductive Token where
  | streamEnd
  | versionDirective (major minor : Nat)
  | tagDirective (handle stem : String)
  | documentStart
  | documentEnd
  | blockSequenceStart
  | blockMappingStart
  | blockEnd
  | flowSequenceStart
  | flowSequenceEnd
  | flowMappingStart
  | flowMappingEnd
  | blockEntry
  | flowEntry
  | key
  | value
  | anchor (name : String)
  | alias (name : String)
  | tag (written : WrittenTag)
  /-- `quoted` for whatever is not a plain scalar. -/
  | scalar (text : String) (quoted : Bool)
  deriving Repr, DecidableEq

end MetricFacade.Yaml
