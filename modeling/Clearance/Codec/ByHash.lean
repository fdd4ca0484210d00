import Clearance.Codec.Basic
import Clearance.Digest.Sha256
import Clearance.Digest.Xx128

/-!
# Keys that hold digests of nodes

A node is written as the digest of its term, the wildcard as the digest of an asterisk. Nodes cannot
be read back from such keys.

## Main definitions

* `Clearance.DigestAlgorithm.digest` — the digest of a byte string by name of its algorithm.
* `Clearance.ByHash.encodeNode` — writing.
-/

namespace Clearance

/-- The digest of a byte string. -/
def DigestAlgorithm.digest : DigestAlgorithm → Bytes → Bytes
  | xx32 => Digest.Xx32.digest
  | xx64 => Digest.Xx64.digest
  | xx128 => Digest.Xx128.digest
  | sha256 => Digest.Sha256.digest
  | sha512 => Digest.Sha512.digest

namespace ByHash

/-- The text that is digested for a node. -/
def subject : Node → List Char
  | .any => ['*']
  | n => n.term

/-- Writes a node. -/
def encodeNode {τ : Type} (algorithm : DigestAlgorithm) (n : Node) : EncodeM τ Unit :=
  EncodeM.put (algorithm.digest (Utf8.encode (subject n)))

end ByHash

end Clearance
