import ClusterTriage.Explanation.Provider
import ClusterTriage.Proofs.Explanation.Provenance

/-!
# Whose answer it is

Explainers that share a cache share answers, and an answer should only be shared by those who asked for
the same: the same provider, the same language, the same text. The key of a request is there to see to
that, and it does what a digest of one text can do.

> **An answer stays with its text** (`answers_stay_with_their_text`): it is only ever given to requests
> that make the text it was asked for, and with no hyphen in the names of providers and in languages
> these are the same request.

With a hyphen they need not be, and an explainer is given an answer in another language than its own,
to a text that it never had (`a_language_gets_the_answer_of_another`).
-/

namespace ClusterTriage
namespace Explainer

variable {σ : Type} {view : σ → String → Option String}

/-- What some explainers have to ask for, or to recall. -/
def requests (sessions : List (Explainer (StateM σ) × List Finding)) : List Request :=
  sessions.flatMap fun c => (c.2.filter Finding.hasFailures).map c.1.request

theorem request_mem_requests {sessions : List (Explainer (StateM σ) × List Finding)}
    {c : Explainer (StateM σ) × List Finding} (hc : c ∈ sessions) {f : Finding} (hf : f ∈ c.2)
    (hfailing : f.hasFailures = true) : c.1.request f ∈ requests sessions :=
  List.mem_flatMap.mpr ⟨c, hc, List.mem_map_of_mem (List.mem_filter.mpr ⟨hf, hfailing⟩)⟩

/-- **An answer stays with its text.** Explainers of any kind share a cache that was empty and makes
nothing up. If no two of the texts that stand for their requests have the same digest, then the keys of
requests are equal exactly if these texts are, and, among requests without a hyphen in the provider's
name and in the language, exactly if the requests are. And whoever watches sees that every answer is
either a reply to the prompt for the finding that it explains, or the reply to an earlier call for a
request with the same text, which is the same request if neither has such a hyphen. -/
theorem answers_stay_with_their_text (sessions : List (Explainer (StateM σ) × List Finding)) (w : σ)
    (hx : ∀ c ∈ sessions, c.1.Truthful view) (hempty : ∀ key, view w key = none)
    (hdigest : CollisionFree ((requests sessions).map Request.subject)) :
    (∀ r ∈ requests sessions, ∀ r' ∈ requests sessions, r.key = r'.key ↔ r.subject = r'.subject) ∧
    (∀ r ∈ requests sessions, ∀ r' ∈ requests sessions, r.Plain → r'.Plain →
      (r.key = r'.key ↔ r = r')) ∧
    ∃ results o made,
      (session sessions).run w = (results, o.world) ∧
      (session (watched sessions)).run { world := w } = (results, o) ∧
      o.log.filterMap Event.question? = made.map Asked.line ∧
      AllSourced (fun r r' => r.subject = r'.subject ∧ (r.Plain → r'.Plain → r = r')) [] sessions made
        results := by
  have hkeys : ∀ r ∈ requests sessions, ∀ r' ∈ requests sessions,
      r.key = r'.key ↔ r.subject = r'.subject :=
    fun r hr r' hr' => Request.key_eq_iff hdigest hr hr'
  refine ⟨hkeys, ?_, ?_⟩
  · intro r hr r' hr' hplain hplain'
    rw [hkeys r hr r' hr']
    constructor
    · exact Request.eq_of_subject_eq hplain hplain'
    · rintro rfl
      rfl
  · obtain ⟨results, made, o, hrun, hbooks, hstories⟩ :=
      session_sourced sessions hx (Books.empty hempty)
    refine ⟨results, o, made, (observed_session sessions).unwatched hrun, hrun, hbooks.questions, ?_⟩
    refine hstories.imp (P := (· ∈ requests sessions)) ?_ (fun a ha => by cases ha)
      fun c hc f hf hfailing => request_mem_requests hc hf hfailing
    intro r r' hr hr' hkey
    have hsubject := (hkeys r hr r' hr').mp hkey
    exact ⟨hsubject, fun hplain hplain' => Request.eq_of_subject_eq hplain hplain' hsubject⟩

/-- Two providers and two languages, one of them with a hyphen, and one text that all are asked about.
The second question is refused, and any other gets its number for an answer. -/
theorem answers_stay_with_a_crash_in_two_languages :
    let counter (name : String) : Completer (StateM (MemoryCache × Nat)) :=
      { name
        ask := fun _ => modifyGetThe (MemoryCache × Nat) fun w =>
          (if w.2 = 1 then .error (.refused 429 "slow down") else .ok (toString w.2), (w.1, w.2 + 1))
        close := return () }
    let speaker (name language : String) : Explainer (StateM (MemoryCache × Nat)) :=
      { completer := counter name, cache := MemoryCache.cache false, language }
    let view : MemoryCache × Nat → String → Option String := fun w => w.1.find?
    let crash (pod : String) : Finding := { kind := "Pod", name := pod, failures := [⟨"crash", [], none⟩] }
    let sessions := [(speaker "openai" "english", [crash "web"]), (speaker "openai" "pt-br", [crash "web"]),
      (speaker "localai" "english", [crash "api"]), (speaker "openai" "english", [crash "api"])]
    let w : MemoryCache × Nat := ({}, 0)
    (∀ c ∈ sessions, c.1.Truthful view) ∧ (∀ key, view w key = none) ∧
      CollisionFree ((requests sessions).map Request.subject) ∧
      (∀ r ∈ requests sessions, ∀ r' ∈ requests sessions, r.key = r'.key ↔ r.subject = r'.subject) ∧
      (∀ r ∈ requests sessions, ∀ r' ∈ requests sessions, r.Plain → r'.Plain →
        (r.key = r'.key ↔ r = r')) ∧
      ∃ results o made,
        (session sessions).run w = (results, o.world) ∧
        (session (watched sessions)).run { world := w } = (results, o) ∧
        o.log.filterMap Event.question? = made.map Asked.line ∧
        AllSourced (fun r r' => r.subject = r'.subject ∧ (r.Plain → r'.Plain → r = r')) [] sessions
          made results := by
  intro counter speaker view crash sessions w
  have htruthful : ∀ c ∈ sessions, c.1.Truthful view := by
    intro c hc
    have hspeaker : ∃ name language, c.1 = speaker name language := by
      simp only [sessions, List.mem_cons, List.not_mem_nil, or_false] at hc
      rcases hc with rfl | rfl | rfl | rfl <;> exact ⟨_, _, rfl⟩
    obtain ⟨name, language, hspeaker⟩ := hspeaker
    rw [hspeaker]
    exact ⟨MemoryCache.truthful Nat false, fun prompt w => .refl _⟩
  have hdigest : CollisionFree ((requests sessions).map Request.subject) := by decide +kernel
  exact ⟨htruthful, fun _ => rfl, hdigest,
    answers_stay_with_their_text sessions w htruthful (fun _ => rfl) hdigest⟩

/-- **A hyphen moves an answer to another language.** European Portuguese is asked about a pod of
Brazil, and Brazilian Portuguese about a pod. No two texts have the same digest, for there is only one
text; the second speaker is given what the first one was answered. -/
theorem a_language_gets_the_answer_of_another :
    let speaker (language : String) : Explainer (StateM (MemoryCache × Unit)) :=
      { completer := Provider.echo, cache := MemoryCache.cache false, language,
        templates := ⟨NameMap.empty.insert "default" "\x7blanguage\x7d: \x7bfailures\x7d"⟩ }
    let down (text : String) : Finding := { kind := "Pod", failures := [⟨text, [], none⟩] }
    let sessions := [(speaker "pt", [down "br-pod is down"]), (speaker "pt-br", [down "pod is down"])]
    let answer := "I am a noop response to the prompt pt: br-pod is down"
    CollisionFree ((requests sessions).map Request.subject) ∧
      (speaker "pt").request (down "br-pod is down") ≠ (speaker "pt-br").request (down "pod is down") ∧
      ((speaker "pt").request (down "br-pod is down")).key =
        ((speaker "pt-br").request (down "pod is down")).key ∧
      ((session sessions).run ({}, ())).1 =
        [(.ok (), [{ down "br-pod is down" with details := some answer }]),
          (.ok (), [{ down "pod is down" with details := some answer }])] ∧
      (((speaker "pt-br").explain [down "pod is down"]).run ({}, ())).1 =
        (.ok (), [{ down "pod is down" with
          details := some "I am a noop response to the prompt pt-br: pod is down" }]) := by
  intro speaker down sessions answer
  have hone : (requests sessions).map Request.subject = .replicate 2 "noop-pt-br-pod is down" := by
    decide +kernel
  have hdigest : CollisionFree ((requests sessions).map Request.subject) :=
    hone ▸ CollisionFree.replicate 2 "noop-pt-br-pod is down"
  refine ⟨hdigest, by decide +kernel, ?_, by decide +kernel, by decide +kernel⟩
  exact (Request.key_eq_iff hdigest (.head _) (.tail _ (.head _))).mpr (by decide +kernel)

end Explainer
end ClusterTriage
