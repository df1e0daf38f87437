import CredentialHelper.Http.Label.Composition
import CredentialHelper.Http.Label.Context
import CredentialHelper.Http.Label.Direction
import CredentialHelper.Http.Punycode

/-!
# Labels of host names

A label outside ASCII is written as `xn--` and its Punycode. It has to keep all rules for its
characters, and so has a label that comes in this form already.
-/

namespace CredentialHelper.Label

/-- What the written form of a label outside ASCII begins with. -/
def writtenMark : List Char := ['x', 'n', '-', '-']

/-- Hyphens are neither first nor last, and not third and fourth. -/
def hyphensFit (label : List Char) : Bool :=
  label.head? != some '-' && label.getLast? != some '-' && (label.drop 2).take 2 != ['-', '-']

def isValid (label : List Char) : Bool :=
  !label.isEmpty && hyphensFit label && !label.head?.any isMark && isComposed label &&
    charactersFit label [] label && directionsFit label

/-- Whether a label in ASCII may stand beside labels outside ASCII. -/
def isValidAscii (label : List Char) : Bool :=
  if writtenMark.isPrefixOf label then
    let code := label.drop writtenMark.length
    !code.isEmpty && code.getLast? != some '-' && (Punycode.decode code).any isValid
  else isValid label

def ascii? (label : List Char) : Option (List Char) :=
  let isAscii := label.all Punycode.isBasic
  let written := if isAscii then label else writtenMark ++ Punycode.encode label
  let valid := if isAscii then isValidAscii label else isValid label
  if valid && decide (written.length ≤ 63) then some written else none

end CredentialHelper.Label
