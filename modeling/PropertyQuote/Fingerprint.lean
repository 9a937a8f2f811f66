import PropertyQuote.Candidate
import PropertyQuote.Digest.Sha256
import PropertyQuote.Json.Writer
import PropertyQuote.Signature
import PropertyQuote.Text.Utf8

/-!
# Fingerprints

A digest of everything a pass takes from its candidates, in their order.
-/

namespace PropertyQuote

/-- What the fingerprint takes from a candidate, as an object with its names in order. -/
def Candidate.record (c : Candidate) : Json :=
  .obj [("descriptor", .str c.symbol.type.descriptor),
    ("expression", (c.declaration.expression?.map Json.str).getD .null),
    ("name", .str c.name),
    ("owner", .str c.symbol.owner.displayName),
    ("static", .bool c.symbol.isStatic)]

/-- The text that is digested. -/
def fingerprintText (cs : List Candidate) : String :=
  (Json.arr (cs.map Candidate.record)).render .compact

/-- The digest of a text. -/
def textDigest (s : String) : String :=
  Digest.Sha256.digest (Text.Utf8.encodeText s)

/-- The fingerprint of some candidates. -/
def fingerprint (cs : List Candidate) : String :=
  textDigest (fingerprintText cs)

end PropertyQuote
