import ClusterTriage.Cache.Basic
import ClusterTriage.Proofs.Encoding.Hex

/-!
# What a fingerprint tells apart

The key of a request is a digest of one text, into which provider, language and input are written with
a hyphen between them. So there are two ways for different requests to have one key. One is a
collision of the digest, and nobody knows one; it is assumed away, for the texts at hand only, since
of all texts it could not be. The other is that the three parts make the same text when they are cut
differently, and nothing keeps a hyphen out of a provider's name or out of a language.

> **A key tells apart what the hyphens leave apart**: with no collision the keys are equal exactly if
> the texts are (`Request.key_eq_iff`), and with no hyphen in names and languages the texts are equal
> only if everything is (`Request.eq_of_subject_eq`).

Whatever it is taken of, a key is a name of 64 lowercase digits (`Request.isFingerprint_key`).

Languages do have hyphens in them, and then a key need not tell which one was asked for: `pt` with an
input that begins with `br-` makes the text that `pt-br` makes with the rest of it.
-/

namespace ClusterTriage

/-- What an explanation is asked for. -/
structure Request where
  provider : String
  language : String
  input : String
deriving DecidableEq, Repr

namespace Request

variable {r r' : Request}

/-- The text that stands for a request. -/
def subject (r : Request) : String := Cache.subject r.provider r.language r.input

def key (r : Request) : String := Cache.key r.provider r.language r.input

/-- Neither the provider's name nor the language has a hyphen in it. -/
def Plain (r : Request) : Prop := '-' ∉ r.provider.toList ∧ '-' ∉ r.language.toList

end Request

/-- No two of some texts have the same digest. -/
def CollisionFree (texts : List String) : Prop :=
  ∀ s ∈ texts, ∀ t ∈ texts,
    Digest.Blake3.hash (Text.Utf8.encode s) = Digest.Blake3.hash (Text.Utf8.encode t) → s = t

instance (texts : List String) : Decidable (CollisionFree texts) :=
  inferInstanceAs (Decidable (∀ s ∈ texts, ∀ t ∈ texts,
    Digest.Blake3.hash (Text.Utf8.encode s) = Digest.Blake3.hash (Text.Utf8.encode t) → s = t))

theorem CollisionFree.mono {texts fewer : List String} (h : CollisionFree texts)
    (hfewer : fewer ⊆ texts) : CollisionFree fewer := by
  intro s hs t ht
  exact h s (hfewer hs) t (hfewer ht)

/-- One text collides with no other. -/
theorem CollisionFree.replicate (n : Nat) (text : String) : CollisionFree (.replicate n text) := by
  intro s hs t ht _
  rw [List.eq_of_mem_replicate hs, List.eq_of_mem_replicate ht]

/-! ## 1. The digest -/

namespace Digest.Blake3

theorem length_outputBlock (node : Node) (i : Nat) : (outputBlock node i).length = 64 := by
  have hword : ∀ w, (wordBytes w).length = 4 := fun _ => rfl
  rw [outputBlock, List.length_flatMap]
  simp [hword, List.map_const']

theorem length_stream (node : Node) (n : Nat) : (stream node n).length = n := by
  have hblocks : ((List.range ((n + 63) / 64)).flatMap (outputBlock node)).length =
      (n + 63) / 64 * 64 := by
    simp [List.length_flatMap, length_outputBlock, List.map_const']
  rw [stream, List.length_take, hblocks]
  omega

end Digest.Blake3

/-- What a key looks like: 64 lowercase hexadecimal digits. -/
def IsFingerprint (name : String) : Prop :=
  name.toList.length = 64 ∧ ∀ c ∈ name.toList, c ∈ Encoding.Hex.digits

theorem Request.isFingerprint_key (r : Request) : IsFingerprint r.key := by
  have hkey : r.key.toList =
      Encoding.Hex.encode (Digest.Blake3.hash (Text.Utf8.encode r.subject)) := String.toList_ofList
  rw [IsFingerprint, hkey]
  refine ⟨?_, fun c hc => Encoding.Hex.mem_digits_of_mem_encode hc⟩
  rw [Encoding.Hex.length_encode, Digest.Blake3.hash, Digest.Blake3.length_stream]

theorem Cache.hash_eq_of_key_eq {p l i p' l' i' : String} (h : Cache.key p l i = Cache.key p' l' i') :
    Digest.Blake3.hash (Text.Utf8.encode (Cache.subject p l i)) =
      Digest.Blake3.hash (Text.Utf8.encode (Cache.subject p' l' i')) :=
  Encoding.Hex.encode_injective (String.ofList_injective h)

/-- Among requests whose texts do not collide, a key stands for a text. -/
theorem Request.key_eq_iff {requests : List Request}
    (h : CollisionFree (requests.map Request.subject)) {r r' : Request} (hr : r ∈ requests)
    (hr' : r' ∈ requests) : r.key = r'.key ↔ r.subject = r'.subject := by
  constructor
  · intro hkey
    exact h _ (List.mem_map_of_mem hr) _ (List.mem_map_of_mem hr') (Cache.hash_eq_of_key_eq hkey)
  · intro hsubject
    exact congrArg (fun s => String.ofList (Encoding.Hex.encode
      (Digest.Blake3.hash (Text.Utf8.encode s)))) hsubject

/-! ## 2. The hyphens -/

/-- A text that is cut at its first separator is cut in one way only. -/
theorem Text.append_cons_inj {sep : Char} {a b s t : List Char} (ha : sep ∉ a) (hb : sep ∉ b)
    (h : a ++ sep :: s = b ++ sep :: t) : a = b ∧ s = t := by
  induction a generalizing b with
  | nil =>
    cases b with
    | nil => exact ⟨rfl, (List.cons.inj h).2⟩
    | cons d b => exact absurd ((List.cons.inj h).1 ▸ List.mem_cons_self) hb
  | cons c a ih =>
    cases b with
    | nil => exact absurd ((List.cons.inj h).1 ▸ List.mem_cons_self) ha
    | cons d b =>
      obtain ⟨rfl, hrest⟩ := List.cons.inj h
      obtain ⟨rfl, rfl⟩ := ih (List.not_mem_of_not_mem_cons ha) (List.not_mem_of_not_mem_cons hb) hrest
      exact ⟨rfl, rfl⟩

theorem Request.toList_subject (r : Request) :
    r.subject.toList = r.provider.toList ++ '-' :: (r.language.toList ++ '-' :: r.input.toList) := by
  simp [Request.subject, Cache.subject, String.toList_append]

/-- With the same provider and language, only the input can make a difference. -/
theorem Request.eq_of_subject_eq_of_same {r r' : Request} (hprovider : r.provider = r'.provider)
    (hlanguage : r.language = r'.language) (h : r.subject = r'.subject) : r = r' := by
  have hlist := congrArg String.toList h
  rw [Request.toList_subject, Request.toList_subject, hprovider, hlanguage] at hlist
  have hinput := (List.cons.inj (List.append_cancel_left
    (List.cons.inj (List.append_cancel_left hlist)).2)).2
  obtain ⟨p, l, i⟩ := r
  obtain ⟨p', l', i'⟩ := r'
  obtain rfl : p = p' := hprovider
  obtain rfl : l = l' := hlanguage
  obtain rfl : i = i' := String.toList_injective hinput
  rfl

/-- **Without hyphens in names and languages everything can be told from the text.** -/
theorem Request.eq_of_subject_eq {r r' : Request} (hr : r.Plain) (hr' : r'.Plain)
    (h : r.subject = r'.subject) : r = r' := by
  have hlist := congrArg String.toList h
  rw [Request.toList_subject, Request.toList_subject] at hlist
  obtain ⟨hprovider, hrest⟩ := Text.append_cons_inj hr.1 hr'.1 hlist
  obtain ⟨hlanguage, -⟩ := Text.append_cons_inj hr.2 hr'.2 hrest
  exact Request.eq_of_subject_eq_of_same (String.toList_injective hprovider)
    (String.toList_injective hlanguage) h

end ClusterTriage
