import MetricFacade.Check.Spelling
import MetricFacade.Grouping

/-!
# Descriptors of collectors

A descriptor says what a collector exports: a name, a help text, the names of labels that
each measurement gives a value, and labels whose value is fixed. Two things follow from it.
Its identity is the name with the fixed values; a registry knows it by a number, and no two
descriptors in a registry share one. Its dimension is the help text with the set of label
names; all descriptors of one name share it.
-/
namespace MetricFacade.Registry

structure Descriptor where
  name : String
  help : String
  labels : List String := []
  fixed : List (String × String) := []
  deriving Repr, DecidableEq

/-- A name, and the values of fixed labels in the order of the labels' names. -/
structure Identity where
  name : String
  values : List String
  deriving Repr, DecidableEq

/-- The number that stands for an identity. Nothing says that different identities have
different numbers. -/
class Digest where
  number : Identity → UInt64

/-- A hash of the name and the values, a byte that is in no text behind each of them. -/
instance : Digest where
  number i := ((i.name :: i.values).flatMap fun s => s.toUTF8.toList ++ [0xff]).foldl
    (fun hash byte => (hash ^^^ byte.toUInt64) * 0x100000001b3) 0xcbf29ce484222325

/-- A help text, and label names in ascending order, each once. -/
structure Dimension where
  help : String
  labels : List String
  deriving Repr, DecidableEq

namespace Descriptor

def identity (d : Descriptor) : Identity where
  name := d.name
  values := (sortBy (fun a b => textLe a.1 b.1) d.fixed).map (·.2)

def id [Digest] (d : Descriptor) : UInt64 :=
  Digest.number d.identity

/-- Labels without a fixed value are marked, so that they are told from fixed ones. -/
def dimension (d : Descriptor) : Dimension where
  help := d.help
  labels := distinctKeys textLe (d.fixed.map (·.1) ++ d.labels.map ("$" ++ ·))

/-- A metric name is a word in which colons count as letters. -/
def isMetricName (s : String) : Bool :=
  Check.isWord (s.map fun c => if c = ':' then '_' else c)

/-- What a client library asks of the options of a metric: a metric name and a help text. -/
def hasLegalOptions (d : Descriptor) : Bool :=
  isMetricName d.name && !d.help.isEmpty

/-- What it asks of label names: words, and none of them twice. -/
def areLabels (names : List String) : Bool :=
  names.all Check.isWord && decide names.Nodup

/-- What a client library accepts. -/
def isLegal (d : Descriptor) : Bool :=
  d.hasLegalOptions && areLabels d.labels && areLabels (d.fixed.map (·.1))

end Descriptor

end MetricFacade.Registry
