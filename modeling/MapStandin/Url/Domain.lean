import MapStandin.Text.Fields
import MapStandin.Url.Domain.Label

/-! # Domain names

A domain name in any script has one form in ASCII, which is the form that is looked up. -/

namespace MapStandin.Url.Domain

def isDomainChar (c : Char) : Bool :=
  0x20 < c.toNat && c.toNat ≠ 0x7F &&
    ['#', '/', ':', '<', '>', '?', '@', '[', '\\', ']', '^', '|', '%'].all (· ≠ c)

/-- The labels of a plain text. If a letter of one of them is written from right to left, each of
them must be written in one direction. -/
def labels? (plain : List Char) : Option (List Label) := do
  let labels ← (Text.fields '.' plain).mapM Label.ofPlain?
  if labels.any Label.turnsRight && !labels.all Label.isDirected then none
  return labels

def ascii? (domain : List Char) : Option (List Char) := do
  let plain := if domain.all isAscii then domain.map Char.toLower else plainForm domain
  let labels ← labels? plain
  let written := ['.'].intercalate (labels.map Label.written)
  if written.all isDomainChar then some written else none

end MapStandin.Url.Domain
