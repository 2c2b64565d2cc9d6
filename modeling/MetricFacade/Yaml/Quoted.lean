import MetricFacade.Toml.Text
import MetricFacade.Yaml.Cursor

/-!
# Quoted YAML scalars

Between single quotes a quote is written twice and nothing else is special. Between double
quotes a backslash begins an escape, and one at the end of a line joins the lines. Line
breaks are folded in both.
-/
namespace MetricFacade.Yaml

/-- The character of an escape, its backslash already taken, and its length. -/
def escape? : List Char → Option (Char × Nat)
  | '0' :: _ => some ('\x00', 1)
  | 'a' :: _ => some ('\x07', 1)
  | 'b' :: _ => some ('\x08', 1)
  | 't' :: _ => some ('\t', 1)
  | '\t' :: _ => some ('\t', 1)
  | 'n' :: _ => some ('\n', 1)
  | 'v' :: _ => some ('\x0b', 1)
  | 'f' :: _ => some ('\x0c', 1)
  | 'r' :: _ => some ('\r', 1)
  | 'e' :: _ => some ('\x1b', 1)
  | ' ' :: _ => some (' ', 1)
  | '"' :: _ => some ('"', 1)
  | '/' :: _ => some ('/', 1)
  | '\\' :: _ => some ('\\', 1)
  | 'N' :: _ => some ('\x85', 1)
  | '_' :: _ => some ('\xa0', 1)
  | 'L' :: _ => some ('\u2028', 1)
  | 'P' :: _ => some ('\u2029', 1)
  | 'x' :: rest => Toml.escape?.numbered 2 rest
  | 'u' :: rest => Toml.escape?.numbered 4 rest
  | 'U' :: rest => Toml.escape?.numbered 8 rest
  | _ => none

/-- Where a run of characters without blanks ends. -/
inductive RunEnd where
  | atBlank
  | atQuote
  /-- Behind a backslash, at the line break that it takes away. -/
  | atEscapedBreak

/-- The characters up to a blank, the closing quote or an escaped line break, and the cursor
there. -/
def quotedRun (single : Bool) : Nat → Cursor → Option (List Char × RunEnd × Cursor)
  | 0, _ => none
  | fuel + 1, c =>
    let go (read : Char) (length : Nat) : Option (List Char × RunEnd × Cursor) :=
      (quotedRun single fuel (c.skip length)).map fun (cs, stop, c) => (read :: cs, stop, c)
    match c.rest with
    | [] => some ([], .atBlank, c)
    | b :: rest =>
      if isBlank b || isBreak b then some ([], .atBlank, c)
      else if single then
        if b = '\'' then
          if rest.head? = some '\'' then go '\'' 2 else some ([], .atQuote, c)
        else go b 1
      else if b = '"' then some ([], .atQuote, c)
      else if b = '\\' then
        if rest.head?.any isBreak then some ([], .atEscapedBreak, c.skip 1)
        else
          match escape? rest with
          | some (read, length) => go read (length + 1)
          | none => none
      else go b 1

/-- The characters up to the closing quote, and the cursor past it. -/
def quotedFrom (single : Bool) : Nat → Cursor → Option (List Char × Cursor)
  | 0, _ => none
  | fuel + 1, c =>
    if c.atDocumentMark || c.rest.isEmpty then none
    else
      match quotedRun single (c.rest.length + 1) c with
      | none => none
      | some (chars, .atQuote, c) => some (chars, c.skip 1)
      | some (chars, stop, c) =>
        let (gap, c) := match stop with
          | .atEscapedBreak => (({ broken := true } : Gap), c.takeBreak.2)
          | _ => ({}, c)
        match Gap.take (fun _ => false) (c.rest.length + 1) gap c with
        | none => none
        | some (gap, c) =>
          (quotedFrom single fuel c).map fun (rest, c) => (chars ++ gap.folded ++ rest, c)

/-- The scalar whose opening quote stands at the cursor. -/
def quoted (single : Bool) (c : Cursor) : Option (List Char × Cursor) :=
  quotedFrom single (c.rest.length + 1) (c.skip 1)

end MetricFacade.Yaml
