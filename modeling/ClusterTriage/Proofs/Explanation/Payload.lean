import ClusterTriage.Explanation.Explain
import ClusterTriage.Proofs.Encoding.Base64
import ClusterTriage.Proofs.Text.Utf8

/-!
# Payloads

An answer goes into a cache as the digits of its bytes and comes back out through a trim, a decoder
of digits and a decoder of characters, each of which can refuse. None of them refuses what was put
in: digits are not blanks, so the trim finds nothing to take off, and the decoders undo the encoders.

> **An answer survives the cache**, whatever it is, the empty one included
> (`Explainer.decodePayload?_encodePayload`).

What a map of payloads knows under a key is `Explainer.usable`. A payload that holds no answer counts
for as little as none at all (`Explainer.usable_eq_some`).
-/

namespace ClusterTriage

/-! ## 1. Digits are not blanks -/

namespace Text

theorem dropWhile_blank {s : List Char} (h : ∀ c ∈ s, isBlank c = false) :
    s.dropWhile isBlank = s := by
  cases s with
  | nil => rfl
  | cons c cs => rw [List.dropWhile_cons, h c List.mem_cons_self]; rfl

/-- A text without blanks has none at its ends. -/
theorem trim_of_no_blank {s : List Char} (h : ∀ c ∈ s, isBlank c = false) : trim s = s := by
  rw [trim, trimEnd, dropWhile_blank h,
    dropWhile_blank fun c hc => h c (List.mem_reverse.mp hc), List.reverse_reverse]

end Text

theorem Encoding.Base64.not_blank_of_mem_encode {bytes : List UInt8} {c : Char}
    (h : c ∈ encode bytes) : Text.isBlank c = false := by
  have hdigits : ∀ n < 64, Text.isBlank (digit n) = false := by decide +kernel
  rcases mem_encode h with ⟨n, hn, rfl⟩ | rfl
  · exact hdigits n hn
  · decide

namespace Explainer

/-! ## 2. In and out again -/

/-- **An answer survives the cache**, whatever it is. -/
theorem decodePayload?_encodePayload (answer : String) :
    decodePayload? (encodePayload answer) = some answer := by
  have htrim : Text.trim (encodePayload answer).toList =
      Encoding.Base64.encode (Text.Utf8.encode answer) := by
    rw [encodePayload, Encoding.Base64.encodeString, String.toList_ofList]
    exact Text.trim_of_no_blank fun c hc => Encoding.Base64.not_blank_of_mem_encode hc
  simp only [decodePayload?, htrim, Encoding.Base64.decode_encode, Option.bind_eq_bind,
    Option.bind_some, Text.Utf8.decode_encode]

/-- A payload holds an answer if, blanks around it aside, it is base64 of well-formed UTF-8 for it. -/
def Holds (payload answer : String) : Prop :=
  ∃ bytes, Encoding.Base64.decode (Text.trim payload.toList) = some bytes ∧
    Text.Utf8.decode bytes = .ok answer

theorem decodePayload?_eq_some {payload answer : String} :
    decodePayload? payload = some answer ↔ Holds payload answer := by
  simp only [decodePayload?, Option.bind_eq_bind, Option.bind_eq_some_iff, Holds]
  refine exists_congr fun bytes => and_congr_right fun _ => ?_
  cases Text.Utf8.decode bytes with
  | ok text => simp
  | error e => simp

theorem decodePayload?_eq_none {payload : String} (h : ∀ answer, ¬ Holds payload answer) :
    decodePayload? payload = none :=
  Option.eq_none_iff_forall_ne_some.mpr fun answer hanswer => h answer (decodePayload?_eq_some.mp hanswer)

/-- The answer that entries have for a key, if they have one that can be used. -/
def usable (entries : String → Option String) (key : String) : Option String :=
  (entries key).bind decodePayload?

theorem usable_eq_some {entries : String → Option String} {key answer : String} :
    usable entries key = some answer ↔ ∃ payload, entries key = some payload ∧ Holds payload answer := by
  simp only [usable, Option.bind_eq_some_iff, decodePayload?_eq_some]

end Explainer
end ClusterTriage
