/-!
# Limits of event payloads

How long the texts, lists and spans in the payload of an event may be. Texts are counted in
characters, metadata keys and values in bytes.
-/

namespace SessionLedger

namespace Limits

/-- Characters of an identifier. -/
def idLength : Nat := 200

/-- Characters of a challenge. -/
def challengeLength : Nat := 512

/-- Characters of the name of a relying party. -/
def rpIdLength : Nat := 253

/-- Credentials that a challenge may list. -/
def allowedCredentials : Nat := 100

/-- Bytes of a metadata key. -/
def metadataKeyBytes : Nat := 200

/-- Bytes of a metadata value. -/
def metadataValueBytes : Nat := 64 * 1024

/-- Characters of the fingerprint or the description of a user agent. -/
def userAgentFieldLength : Nat := 512

/-- Characters of an internet address. -/
def ipLength : Nat := 45

/-- Seconds that a session may live at most, ten years of 365 days. -/
def lifetimeSeconds : Nat := 315360000

end Limits

end SessionLedger
