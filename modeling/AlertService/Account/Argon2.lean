import AlertService.Account.Password
import AlertService.Crypto.Argon2.Digest

/-!
# Password hashes of Argon2

The fields of a hash tell how its digest is computed. Where a field is missing the setting is that
of new hashes, and of two parameters with one name the later one counts.
-/

namespace AlertService.PasswordHash

def addressing? : String → Option Argon2.Addressing
  | "argon2d" => some .dependent
  | "argon2i" => some .independent
  | "argon2id" => some .hybrid
  | _ => none

def version? : Option Nat → Option Argon2.Version
  | none => some .newer
  | some n => [Argon2.Version.older, .newer].find? fun v => v.code = n

/-- A parameter that holds up to so many bytes. -/
def bytes? (limit : Nat) (value : String) : Option Bytes :=
  (Base64.decode? .standard value.toList).filter fun bs => bs.length ≤ limit

/-- The settings with a parameter. The name of a key is read and has no effect. -/
def withParameter? (s : Argon2.Settings) : String × String → Option Argon2.Settings
  | ("m", value) => (decimal? value.toList).map fun n => { s with memory := n }
  | ("t", value) => (decimal? value.toList).map fun n => { s with passes := n }
  | ("p", value) => (decimal? value.toList).map fun n => { s with lanes := n }
  | ("keyid", value) => (bytes? 8 value).map fun _ => s
  | ("data", value) => (bytes? 32 value).map fun bs => { s with data := bs }
  | _ => none

/-- Every lane has two blocks in each of its slices. -/
def isComputable (s : Argon2.Settings) : Bool :=
  1 ≤ s.lanes && s.lanes ≤ 0xffffff && 1 ≤ s.passes && 8 * s.lanes ≤ s.memory

def settings? (h : PasswordHash) : Option Argon2.Settings := do
  let addressing ← addressing? h.algorithm
  let version ← version? h.version
  let s ← h.parameters.foldlM withParameter? ⟨addressing, version, 19456, 2, 1, []⟩
  if isComputable s then some s else none

/-- The bytes of the salt, of which there have to be eight. -/
def saltBytes? (h : PasswordHash) : Option Bytes :=
  (h.salt.bind fun s => Base64.decode? .standard s.toList).filter fun bs => 8 ≤ bs.length

/-- The digest that the algorithm of the hash computes. -/
def argon2 : Digest := fun h size password => do
  let s ← settings? h
  let salt ← saltBytes? h
  return s.digest size password salt

end AlertService.PasswordHash
