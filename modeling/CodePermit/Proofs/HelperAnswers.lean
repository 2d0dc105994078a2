import CodePermit.Helper.Exchange
import CodePermit.Proofs.Encodings
import CodePermit.Proofs.JsonTexts
import CodePermit.Proofs.Numerals
/-!
# Answers of helper commands

What a helper command wants to say gets through: an answer that it prints as JSON, with any white
space around it, is the answer that is understood, and nothing else but its exit code and its output
can make it one.  A helper is taken to have attached only if it ended well; whether it is asked
again is decided by its exit code alone.

* `Means`, `ofJson?_eq_some_iff` — the answer that a JSON value stands for;
* `means_toJson`, `read_reply` — an answer as JSON, there and back;
* `interpretOutput_eq_ok_iff` — what the output of a helper that ended well says;
* `interpret_reply` — a printed answer is understood;
* `Understood`, `understood` — what becomes of any exit code and any outputs;
* `helper_answers` — both together.
-/

namespace CodePermit

namespace AttachReply

/-! ### Answers as JSON -/

/-- A JSON value stands for an answer: it has one status, and a refusal has one reason. -/
inductive Means (j : Json) : AttachReply → Prop
  | attached (status : j.members "status" = [.string "attached"]) : Means j .attached
  | rejected {reason : String} (status : j.members "status" = [.string "rejected"])
      (why : j.members "reason" = [.string reason]) : Means j (.rejected reason)

/-- Only objects stand for answers. -/
theorem Means.isObject {j : Json} {reply : AttachReply} (h : Means j reply) :
    ∃ fields, j = .object fields := by
  have hmember : j.members "status" ≠ [] := by
    cases h with
    | attached status => simp [status]
    | rejected status _ => simp [status]
  cases j with
  | object fields => exact ⟨fields, rfl⟩
  | null => exact absurd rfl hmember
  | bool value => exact absurd rfl hmember
  | number value => exact absurd rfl hmember
  | string value => exact absurd rfl hmember
  | array elements => exact absurd rfl hmember

theorem single_text_iff {vs : List Json} {s : String} :
    (single vs).bind Json.text? = some s ↔ vs = [.string s] := by
  constructor
  · intro h
    obtain ⟨v, hv, htext⟩ := Option.bind_eq_some_iff.1 h
    unfold single at hv
    split at hv
    · cases hv
      cases v <;> simp [Json.text?] at htext
      rw [htext]
    · cases hv
  · rintro rfl
    rfl

theorem ofJson?_eq_some_iff {j : Json} {reply : AttachReply} :
    ofJson? j = some reply ↔ Means j reply := by
  constructor
  · intro h
    obtain ⟨status, hstatus, h⟩ := Option.bind_eq_some_iff.1 h
    have hmembers := single_text_iff.1 hstatus
    split at h
    · rename_i hattached
      cases h
      exact .attached (hattached ▸ hmembers)
    · split at h
      · rename_i hrejected
        obtain ⟨reason, hreason, h⟩ := Option.bind_eq_some_iff.1 h
        cases h
        exact .rejected (hrejected ▸ hmembers) (single_text_iff.1 hreason)
      · cases h
  · intro h
    cases h with
    | attached status =>
      unfold ofJson?
      rw [single_text_iff.2 status]
      rfl
    | rejected status why =>
      unfold ofJson?
      rw [single_text_iff.2 status, single_text_iff.2 why]
      rfl

/-- **An answer is what its JSON stands for.** -/
theorem means_toJson (reply : AttachReply) : Means reply.toJson reply := by
  cases reply with
  | attached => exact .attached rfl
  | rejected reason => exact .rejected rfl rfl

/-- **The JSON of an answer is read as it was written**, whatever the reason holds. -/
theorem read_reply (reply : AttachReply) : Json.read reply.toJson.write = some reply.toJson := by
  refine Json.Legible.read_write ?_
  cases reply with
  | attached =>
    refine Json.legible_object fun f hf => ?_
    obtain rfl := List.mem_singleton.1 hf
    exact Json.legible_string _ _
  | rejected reason =>
    refine Json.legible_object fun f hf => ?_
    rcases List.mem_pair.1 hf with rfl | rfl
    · exact Json.legible_string _ _
    · exact Json.legible_string _ _

end AttachReply

/-! ### What a helper that ended well says -/

/-- The text begins like a JSON object. -/
def LooksLikeObject (text : List Char) : Prop :=
  text.head? = some '{'

/-- What is left of the output of a helper that ended well stands for an answer: an object for the
one that it means, anything else for having attached. -/
inductive Says (text : List Char) : AttachReply → Prop
  | otherwise (h : ¬LooksLikeObject text) : Says text .attached
  | object {j : Json} {reply : AttachReply} (h : LooksLikeObject text)
      (read : Json.read text = some j) (means : AttachReply.Means j reply) : Says text reply

theorem interpretOutput_of_object {text : List Char} (h : LooksLikeObject text) :
    interpretOutput text =
      match (Json.read text).bind AttachReply.ofJson? with
      | some reply => .ok reply
      | none => .error (.protocol "the reply is not a JSON object with a known status") := by
  obtain ⟨cs, rfl⟩ := List.head?_eq_some_iff.1 h
  rfl

theorem interpretOutput_of_other {text : List Char} (h : ¬LooksLikeObject text) :
    interpretOutput text = .ok .attached := by
  unfold interpretOutput
  split
  · exact absurd rfl h
  · rfl

theorem interpretOutput_eq_ok_iff {text : List Char} {reply : AttachReply} :
    interpretOutput text = .ok reply ↔ Says text reply := by
  by_cases hobject : LooksLikeObject text
  · have hread : Says text reply ↔ ∃ j, Json.read text = some j ∧ AttachReply.Means j reply := by
      constructor
      · intro h
        cases h with
        | otherwise h => exact absurd hobject h
        | object _ read means => exact ⟨_, read, means⟩
      · rintro ⟨j, hj, hmeans⟩
        exact .object hobject hj hmeans
    have hdecoded : (Json.read text).bind AttachReply.ofJson? = some reply ↔
        ∃ j, Json.read text = some j ∧ AttachReply.Means j reply := by
      simp only [Option.bind_eq_some_iff, AttachReply.ofJson?_eq_some_iff]
    rw [interpretOutput_of_object hobject, hread, ← hdecoded]
    cases (Json.read text).bind AttachReply.ofJson? <;> simp
  · rw [interpretOutput_of_other hobject, Except.ok.injEq]
    constructor
    · rintro rfl
      exact .otherwise hobject
    · intro h
      cases h with
      | otherwise _ => rfl
      | object h => exact absurd h hobject

/-- What is no answer breaks the protocol. -/
theorem interpretOutput_of_error {text : List Char} {fault : HelperFault}
    (h : interpretOutput text = .error fault) : ∃ message, fault = .protocol message := by
  by_cases hobject : LooksLikeObject text
  · rw [interpretOutput_of_object hobject] at h
    split at h
    · cases h
    · cases h
      exact ⟨_, rfl⟩
  · rw [interpretOutput_of_other hobject] at h
    cases h

/-! ### Answers that are printed -/

theorem looksLikeObject_reply (reply : AttachReply) : LooksLikeObject reply.toJson.write := by
  cases reply <;> rfl

/-- White space around the JSON of an answer is no part of it. -/
theorem trim_reply {reply : AttachReply} {before after : List Char}
    (hbefore : ∀ c ∈ before, Text.isBlank c = true) (hafter : ∀ c ∈ after, Text.isBlank c = true) :
    Text.trim (before ++ (reply.toJson.write ++ after)) = reply.toJson.write := by
  refine Text.IsTrimmed.trim_eq ⟨⟨before, after, rfl, hbefore, hafter⟩, ?_, ?_⟩
  · rw [looksLikeObject_reply]
    intro c hc
    cases hc
    rfl
  · have hlast : reply.toJson.write.getLast? = some '}' := by
      cases reply <;> simp [AttachReply.toJson, Json.write, List.getLast?_cons]
    rw [hlast]
    intro c hc
    cases hc
    rfl

/-- **An answer that a helper prints is understood**, whatever else it reports. -/
theorem interpret_reply {reply : AttachReply} {before after : List Char} (stderr : List UInt8)
    (hbefore : ∀ c ∈ before, Text.isBlank c = true) (hafter : ∀ c ∈ after, Text.isBlank c = true) :
    interpret ⟨some 0, Text.encode (before ++ (reply.toJson.write ++ after)), stderr⟩ =
      .ok reply := by
  have hsays : Says reply.toJson.write reply :=
    .object (looksLikeObject_reply reply) reply.read_reply reply.means_toJson
  rw [interpret, if_pos rfl, outputText, Text.decodeLossy_encode, trim_reply hbefore hafter]
  exact interpretOutput_eq_ok_iff.2 hsays

/-! ### Any end of a helper -/

/-- Another request may have another result. -/
def Retryable (result : Except HelperFault AttachReply) : Prop :=
  ∃ fault, result = .error fault ∧ fault.isTransient = true

/-- What becomes of the exit code and the outputs of a helper. -/
structure Understood (r : CommandResult) : Prop where
  /-- The request may be repeated unless the exit code is that of a success or that of a refusal; a
  helper that a signal ended has no exit code. -/
  retryable : Retryable (interpret r) ↔ r.exitCode ≠ some 0 ∧ r.exitCode ≠ some 2
  /-- The code of a refusal always is one, with what is left of the other output as its reason. -/
  refused : r.exitCode = some 2 →
    interpret r = .error (.rejected (String.ofList (outputText r.stderr)))
  /-- An answer comes from a helper that ended well, and is what its output says. -/
  answered : ∀ reply, interpret r = .ok reply ↔
    r.exitCode = some 0 ∧ Says (outputText r.stdout) reply
  /-- An output that says nothing breaks the protocol. -/
  unreadable : (∃ message, interpret r = .error (.protocol message)) ↔
    r.exitCode = some 0 ∧ ∀ reply, ¬Says (outputText r.stdout) reply

theorem interpret_of_zero {r : CommandResult} (h : r.exitCode = some 0) :
    interpret r = interpretOutput (outputText r.stdout) := by
  rw [interpret, if_pos h]

theorem interpret_of_refusal {r : CommandResult} (h : r.exitCode = some refusalCode) :
    interpret r = .error (.rejected (String.ofList (outputText r.stderr))) := by
  have hzero : r.exitCode ≠ some 0 := by
    rw [h]
    decide
  rw [interpret, if_neg hzero, if_pos h]

theorem interpret_of_other {r : CommandResult} (hzero : r.exitCode ≠ some 0)
    (hrefusal : r.exitCode ≠ some refusalCode) :
    ∃ message, interpret r = .error (.unreachable message) := by
  rw [interpret, if_neg hzero, if_neg hrefusal]
  exact ⟨_, rfl⟩

theorem understood (r : CommandResult) : Understood r := by
  -- the exit code decides what the result is read off
  by_cases hzero : r.exitCode = some 0
  · have hcode : r.exitCode ≠ some refusalCode := by
      rw [hzero]
      decide
    have hr := interpret_of_zero hzero
    refine ⟨⟨?_, fun h => absurd hzero h.1⟩, fun h => absurd h hcode, fun reply => ?_, ?_⟩
    · rintro ⟨fault, hfault, htransient⟩
      rw [hr] at hfault
      obtain ⟨message, rfl⟩ := interpretOutput_of_error hfault
      cases htransient
    · rw [hr, interpretOutput_eq_ok_iff, and_iff_right hzero]
    · simp only [hr, and_iff_right hzero, ← interpretOutput_eq_ok_iff]
      constructor
      · rintro ⟨message, h⟩ reply hreply
        rw [h] at hreply
        cases hreply
      · intro h
        cases hresult : interpretOutput (outputText r.stdout) with
        | ok reply => exact absurd hresult (h reply)
        | error fault =>
          obtain ⟨message, rfl⟩ := interpretOutput_of_error hresult
          exact ⟨message, rfl⟩
  · by_cases hrefusal : r.exitCode = some 2
    · have hr := interpret_of_refusal hrefusal
      refine ⟨⟨?_, fun h => absurd hrefusal h.2⟩, fun _ => hr, fun reply => ?_, ?_⟩
      · rintro ⟨fault, hfault, htransient⟩
        rw [hr] at hfault
        cases hfault
        cases htransient
      · simp [hr, hzero]
      · simp [hr, hzero]
    · obtain ⟨message, hr⟩ := interpret_of_other hzero hrefusal
      refine ⟨⟨fun _ => ⟨hzero, hrefusal⟩, fun _ => ⟨_, hr, rfl⟩⟩, fun h => absurd h hrefusal,
        fun reply => ?_, ?_⟩
      · simp [hr, hzero]
      · simp [hr, hzero]

/-- **Answers of helpers get through, and nothing else is taken for one.** -/
theorem helper_answers :
    (∀ (reply : AttachReply) (before after : List Char) (stderr : List UInt8),
      (∀ c ∈ before, Text.isBlank c = true) → (∀ c ∈ after, Text.isBlank c = true) →
        interpret ⟨some 0, Text.encode (before ++ (reply.toJson.write ++ after)), stderr⟩ =
          .ok reply) ∧
    (∀ r, Understood r) ∧
    ∀ r, interpret r = .ok .attached → r.exitCode = some 0 ∧
      (¬LooksLikeObject (outputText r.stdout) ∨ ∃ fields,
        Json.read (outputText r.stdout) = some (.object fields) ∧
          (Json.object fields).members "status" = [.string "attached"]) := by
  refine ⟨fun reply before after stderr hbefore hafter => interpret_reply stderr hbefore hafter,
    understood, fun r h => ?_⟩
  obtain ⟨hzero, hsays⟩ := ((understood r).answered .attached).1 h
  refine ⟨hzero, ?_⟩
  cases hsays with
  | otherwise h => exact .inl h
  | object _ read means =>
    obtain ⟨fields, rfl⟩ := means.isObject
    cases means with
    | attached status => exact .inr ⟨fields, read, status⟩

/-- A reason with quotes, a backslash, a line feed and a letter of two bytes, and blanks around the
answer that are no ASCII. -/
theorem helper_answers_padded :
    (∀ c ∈ ['\u00a0', '\t'], Text.isBlank c = true) ∧ (∀ c ∈ ['\r', '\n'], Text.isBlank c = true) ∧
    interpret ⟨some 0, Text.encode (['\u00a0', '\t'] ++
      ((AttachReply.rejected "\"d\u00e9j\u00e0\" \\\n").toJson.write ++ ['\r', '\n'])), [0xFF]⟩ =
        .ok (.rejected "\"d\u00e9j\u00e0\" \\\n") := by
  have hbefore : ∀ c ∈ ['\u00a0', '\t'], Text.isBlank c = true := List.all_eq_true.1 rfl
  have hafter : ∀ c ∈ ['\r', '\n'], Text.isBlank c = true := List.all_eq_true.1 rfl
  exact ⟨hbefore, hafter, helper_answers.1 _ _ _ _ hbefore hafter⟩

end CodePermit
