import ClusterWatch.DomainName.Direction
import ClusterWatch.DomainName.Joiner
import ClusterWatch.DomainName.Mapping
import ClusterWatch.DomainName.Punycode

/-!
# Domain names

A domain name is a sequence of labels between dots.  Labels may have characters of
all scripts; one that begins with `xn--` is the Punycode of another.
-/

namespace ClusterWatch.DomainName

/-- What labels in Punycode begin with. -/
def mark : List Char :=
  ['x', 'n', '-', '-']

/-- The label that a label stands for.  What Punycode stands for is never a label
that can be written without it. -/
def decoded? (label : List Char) : Option (List Char) :=
  if mark.isPrefixOf label then
    if label.all fun c => c.toNat < 0x80 then do
      let decoded ← Punycode.decode? (label.drop mark.length)
      if decoded.all isStable && decoded.any (fun c => 0x80 ≤ c.toNat) &&
          !mark.isPrefixOf decoded then
        some decoded
      else none
    else none
  else some label

/-- A label begins with no combining mark, and its joiners are in their places. -/
def isLabel (label : List Char) : Bool :=
  !label.head?.any isMark && joinersInPlace [] label

/-- The labels of a domain name.  If one of them has letters that are written from
right to left, the directions in each of them agree. -/
def labels? (text : List Char) : Option (List (List Char)) := do
  let characters ← text.mapM mapped?
  let labels ← (Text.splitAt '.' characters.flatten).mapM decoded?
  if labels.all isLabel && (!labels.any hasRightToLeft || labels.all agrees) then some labels
  else none

end ClusterWatch.DomainName
