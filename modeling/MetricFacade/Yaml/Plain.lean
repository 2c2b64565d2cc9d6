import MetricFacade.Yaml.Cursor

/-!
# Unquoted YAML scalars in text

A plain scalar goes on until a colon before a blank, a comment, or a line that is indented
too little; in a flow collection also until a comma or a bracket. Line breaks inside are
folded.
-/
namespace MetricFacade.Yaml

/-- The character is an indicator of flow collections. -/
def isFlowIndicator (c : Char) : Bool :=
  c ∈ [',', '[', ']', '\x7b', '\x7d']

/-- The characters up to a blank or to what ends the scalar, and what follows them. -/
def plainWord (inFlow : Bool) : List Char → Option (List Char × List Char)
  | [] => some ([], [])
  | ':' :: rest =>
    if inFlow && rest.head?.any fun n => isFlowIndicator n || n = '?' then none
    else if atBlank rest then some ([], ':' :: rest)
    else (plainWord inFlow rest).map fun (word, rest) => (':' :: word, rest)
  | c :: rest =>
    if isBlank c || isBreak c || (inFlow && isFlowIndicator c) then some ([], c :: rest)
    else (plainWord inFlow rest).map fun (word, rest) => (c :: word, rest)

/-- A scalar read, the cursor past it and past the blanks behind it, and whether there is a
line break among those. -/
structure PlainScalar where
  chars : List Char
  cursor : Cursor
  broken : Bool

/-- The scalar whose words so far are `chars`, with the gap `gap` behind them. `indent` is the
least column of a further line. -/
def plainFrom (inFlow : Bool) (indent : Nat) : Nat → List Char → Gap → Cursor →
    Option PlainScalar
  | 0, _, _, _ => none
  | fuel + 1, chars, gap, c =>
    if c.atDocumentMark || c.rest.head? = some '#' then some ⟨chars, c, gap.broken⟩
    else
      match plainWord inFlow c.rest with
      | none => none
      | some (word, rest) =>
        let c := c.moveTo rest
        let (chars, gap) :=
          if word.isEmpty then (chars, gap) else (chars ++ gap.folded ++ word, {})
        if c.rest.isEmpty || !atBlank c.rest then some ⟨chars, c, gap.broken⟩
        else
          match Gap.take (fun c => c.column < indent) (c.rest.length + 1) gap c with
          | none => none
          | some (gap, c) =>
            if !inFlow && c.column < indent then some ⟨chars, c, gap.broken⟩
            else plainFrom inFlow indent fuel chars gap c

def plain (inFlow : Bool) (indent : Nat) (c : Cursor) : Option PlainScalar :=
  plainFrom inFlow indent (c.rest.length + 1) [] {} c

end MetricFacade.Yaml
