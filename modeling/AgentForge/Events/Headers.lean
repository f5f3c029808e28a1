import Mathlib.Algebra.GroupWithZero.Nat
import Mathlib.Data.List.DropRight
import AgentForge.Events.Laws
import AgentForge.Lib.Table

/-!
# Headers of valid envelopes

The headers that repeat the body of a valid envelope are short, few and distinct, so that there is room for those that
the router adds.
-/

set_option autoImplicit false

namespace AgentForge.Events

open Lib Lib.Json Platform
open Operator hiding isBlank

variable {F : Format} {text : String} {e : Envelope} {decode : Json → Except Error Envelope}
  {headers : List (Header F)}

/-! ## Trimmed texts -/

theorem trimBoth_sublist (drop : Char → Bool) (text : List Char) : (trimBoth drop text).Sublist text := by
  have front : trimBoth drop text <+: text.dropWhile drop := List.rdropWhile_prefix drop _
  exact front.sublist.trans (List.dropWhile_suffix drop).sublist

theorem trimBoth_idem (drop : Char → Bool) (text : List Char) : trimBoth drop (trimBoth drop text) = trimBoth drop text := by
  have left : (trimBoth drop text).dropWhile drop = trimBoth drop text := by
    obtain ⟨rest, front⟩ : trimBoth drop text <+: text.dropWhile drop := List.rdropWhile_prefix drop _
    cases kept : trimBoth drop text with
    | nil => rfl
    | cons c tail =>
      rw [kept] at front
      have first : ¬drop c = true := by
        have head := List.dropWhile_eq_self_iff.mp (List.dropWhile_idempotent drop text)
        rw [← front] at head
        exact head (by simp)
      rw [List.dropWhile_cons, if_neg first]
  change ((trimBoth drop text).dropWhile drop).rdropWhile drop = _
  rw [left]
  exact List.rdropWhile_idempotent drop (text.dropWhile drop)

@[simp] theorem trimSpace_idem (text : String) : trimSpace (trimSpace text) = trimSpace text := by
  simp [trimSpace, trimBoth_idem]

theorem utf8ByteSize_trimSpace (text : String) : (trimSpace text).utf8ByteSize ≤ text.utf8ByteSize := by
  have sizes : ∀ characters, (String.ofList characters).utf8ByteSize = String.utf8Len characters :=
    String.utf8ByteSize_ofList
  rw [trimSpace, sizes, ← String.ofList_toList (s := text), sizes, String.toList_ofList]
  exact String.utf8Len_le_of_sublist (trimBoth_sublist _ _)

@[simp] theorem isBlank_trimSpace (text : String) : isBlank (trimSpace text) = isBlank text := by
  simp [isBlank]

theorem present_iff {limit : Nat} : present limit text = true ↔ isBlank text = false ∧ text.utf8ByteSize ≤ limit := by
  simp [present]

theorem present_trimSpace {limit : Nat} (isPresent : present limit text = true) :
    present limit (trimSpace text) = true := by
  obtain ⟨filled, short⟩ := present_iff.mp isPresent
  exact present_iff.mpr ⟨by simpa using filled, (utf8ByteSize_trimSpace text).trans short⟩

/-- A text with a character that is not a space. -/
theorem isBlank_eq_false {c : Char} (inside : c ∈ text.toList) (visible : isUnicodeSpace c = false) :
    isBlank text = false := by
  have kept : c ∈ trimBoth isUnicodeSpace text.toList := by
    have front : ∀ l : List Char, c ∈ l → c ∈ l.dropWhile isUnicodeSpace := by
      intro l member
      rw [← List.takeWhile_append_dropWhile (p := isUnicodeSpace) (l := l)] at member
      rcases List.mem_append.mp member with dropped | kept
      · have space := List.mem_takeWhile_imp dropped
        rw [visible] at space
        cases space
      · exact kept
    have once := front _ inside
    exact List.mem_reverse.mpr (front _ (List.mem_reverse.mpr once))
  cases blank : isBlank text with
  | false => rfl
  | true =>
    have empty : trimSpace text = "" := by simpa [isBlank] using blank
    have none : trimBoth isUnicodeSpace text.toList = [] := by simpa [trimSpace] using empty
    rw [none] at kept
    cases kept

/-! ## The headers of the body -/

theorem repeatedValues_keys (e : Envelope) : ((repeatedValues e).map Prod.fst).Sublist repeatedKeys := by
  have rest : (([("request-id", e.requestID), ("traceparent", e.traceparent), ("tracestate", e.tracestate)].filter
      fun pair => pair.2 != "").map Prod.fst).Sublist ["request-id", "traceparent", "tracestate"] :=
    List.filter_sublist.map Prod.fst
  simpa [repeatedValues, repeatedKeys] using rest

theorem repeatedKeys_nodup : repeatedKeys.Nodup := by decide

/-- The headers of the body, by name. -/
theorem repeatedValues_distinct (e : Envelope) : ((repeatedValues e).map fun pair => F.utf8 pair.1).Nodup := by
  have keys : ((repeatedValues e).map Prod.fst).Nodup := repeatedKeys_nodup.sublist (repeatedValues_keys e)
  have mapped := keys.map (f := F.utf8) fun _ _ same => Format.utf8_inj.mp same
  rwa [List.map_map] at mapped

theorem expectedValue_eq {pair : String × String} (inside : pair ∈ repeatedValues e) :
    expectedValue (F := F) e (F.utf8 pair.1) = F.utf8 pair.2 := by
  have found := Table.get?_key (t := ⟨repeatedValues e, repeatedValues_distinct (F := F) e⟩) inside
  unfold expectedValue
  rw [show (repeatedValues e).find? (fun p => F.utf8 p.1 = F.utf8 pair.1) = some pair from found]

/-! ## Their sizes -/

theorem supported (valid : Checked F decode e) : e.eventType ∈ deliveryDeadLetteredType :: runEventTypes := by
  have payload := valid.payload
  unfold validatePayload at payload
  simp only [runEventTypes, List.mem_cons, List.not_mem_nil, or_false]
  split at payload
  · tauto
  split at payload
  · tauto
  split at payload
  · tauto
  split at payload
  · tauto
  split at payload
  · tauto
  split at payload
  · tauto
  split at payload
  · tauto
  · cases payload

theorem schemaVersion_eq (valid : Checked F decode e) : e.schemaVersion = 1 := by
  have one : ∀ eventType ∈ deliveryDeadLetteredType :: runEventTypes,
      (versionDigits eventType).bind eventMajor = some 1 := by decide +kernel
  have version := valid.version
  rw [one _ (supported valid)] at version
  exact (Option.some.inj version).symm

theorem eventType_size (valid : Checked F decode e) : e.eventType.utf8ByteSize ≤ 31 := by
  have sizes : ∀ eventType ∈ deliveryDeadLetteredType :: runEventTypes, eventType.utf8ByteSize ≤ 31 := by decide +kernel
  exact sizes _ (supported valid)

theorem traceparent_size (valid : validTraceparent text = true) : text.utf8ByteSize = 55 := by
  unfold validTraceparent at valid
  split at valid
  next version trace span flags parts =>
    simp only [Bool.and_eq_true, beq_iff_eq, List.all_eq_true] at valid
    obtain ⟨⟨⟨⟨⟨⟨versionLength, traceLength⟩, spanLength⟩, flagsLength⟩, hex⟩, -⟩, -⟩ := valid
    have joined : text.toList = version ++ '-' :: (trace ++ '-' :: (span ++ '-' :: flags)) := by
      have whole : ['-'].intercalate (text.toList.splitOn '-') = text.toList := List.intercalate_splitOn '-'
      rw [← whole, parts]
      simp [List.intercalate]
    have single : ∀ c ∈ text.toList, c.utf8Size = 1 := by
      intro c inside
      by_cases dash : c = '-'
      · rw [dash]
        rfl
      · have digit : isLowerHex c = true := hex c (by rw [joined] at inside; simpa [dash] using inside)
        simp only [isLowerHex, Bool.or_eq_true, Bool.and_eq_true, decide_eq_true_eq] at digit
        have ascii : c ≤ 'f' := by
          rcases digit with ⟨-, small⟩ | ⟨-, small⟩
          · exact small.trans (by decide)
          · exact small
        have value : c.val ≤ 127 := UInt32.le_trans ascii (by decide)
        exact Char.utf8Size_eq_one_iff.mpr value
    rw [← String.ofList_toList (s := text), String.utf8ByteSize_ofList, utf8Len_of_single single, joined]
    simp [versionLength, traceLength, spanLength, flagsLength]
  next => cases valid

/-- A list of headers passes if each is short, the names are distinct, all together are short, and those that
repeat the body agree with it. -/
theorem checkHeaders_ok {seen : List F.Text} {bytes : Nat}
    (short : ∀ h ∈ headers, F.size h.key ≠ 0 ∧ F.size h.key ≤ 64 ∧ F.size h.value ≤ 512)
    (fresh : ∀ h ∈ headers, h.key ∉ seen) (distinct : (headers.map Header.key).Nodup)
    (total : bytes + (headers.map fun h => F.size h.key + F.size h.value).sum ≤ 4096)
    (body : ∀ h ∈ headers, (∃ key ∈ repeatedKeys, F.utf8 key = h.key) → expectedValue e h.key = h.value) :
    checkHeaders e headers seen bytes = .ok () := by
  induction headers generalizing seen bytes with
  | nil => rfl
  | cons h rest ih =>
    rw [List.map_cons, List.nodup_cons] at distinct
    rw [List.map_cons, List.sum_cons] at total
    obtain ⟨named, nameShort, valueShort⟩ := short h List.mem_cons_self
    unfold checkHeaders
    simp only [guard_eq_ok]
    refine ⟨by omega, by simpa using fresh h List.mem_cons_self, ?_, ih ?_ ?_ distinct.2 (by omega) ?_⟩
    · rintro ⟨known, other⟩
      exact other (body h List.mem_cons_self (by simpa using known))
    · exact fun h' later => short h' (List.mem_cons_of_mem _ later)
    · intro h' later seenBefore
      rcases List.mem_cons.mp seenBefore with same | old
      · exact distinct.1 (same ▸ List.mem_map_of_mem later)
      · exact fresh h' (List.mem_cons_of_mem _ later) old
    · exact fun h' later => body h' (List.mem_cons_of_mem _ later)

/-- Headers that pass have distinct names. -/
theorem checkHeaders_distinct {seen : List F.Text} {bytes : Nat}
    (passed : checkHeaders e headers seen bytes = .ok ()) :
    (headers.map Header.key).Nodup ∧ ∀ h ∈ headers, h.key ∉ seen := by
  induction headers generalizing seen bytes with
  | nil => exact ⟨List.nodup_nil, fun h inside => by cases inside⟩
  | cons h rest ih =>
    unfold checkHeaders at passed
    simp only [guard_eq_ok] at passed
    obtain ⟨-, fresh, -, others⟩ := passed
    obtain ⟨distinct, apart⟩ := ih others
    refine ⟨?_, ?_⟩
    · rw [List.map_cons, List.nodup_cons]
      refine ⟨fun again => ?_, distinct⟩
      obtain ⟨h', later, same⟩ := List.mem_map.mp again
      exact apart h' later (same ▸ List.mem_cons_self)
    · intro h' inside
      rcases List.mem_cons.mp inside with rfl | later
      · simpa using fresh
      · exact fun old => apart h' later (List.mem_cons_of_mem _ old)

theorem distinct_of_validateHeaders (valid : validateHeaders e headers = .ok ()) :
    (headers.map Header.key).Nodup := by
  simp only [validateHeaders, guard_eq_ok, bind_eq_ok] at valid
  obtain ⟨-, _, passed, -⟩ := valid
  exact (checkHeaders_distinct passed).1

/-- The headers of a valid body are short, also all together. -/
theorem repeatedValues_short (valid : Checked F decode e) :
    (∀ pair ∈ repeatedValues e, pair.1.utf8ByteSize ≠ 0 ∧ pair.1.utf8ByteSize ≤ 64 ∧ pair.2.utf8ByteSize ≤ 512) ∧
      ((repeatedValues e).map fun pair => pair.1.utf8ByteSize + pair.2.utf8ByteSize).sum ≤ 1500 := by
  have event := utf8ByteSize_text e.eventID
  have tenant := utf8ByteSize_text e.tenantID
  have type := eventType_size valid
  have version : (toString e.schemaVersion).utf8ByteSize = 1 := by
    rw [schemaVersion_eq valid]
    decide +kernel
  have correlation := (present_iff.mp valid.correlationID).2
  have causation := (present_iff.mp valid.causationID).2
  have request := valid.requestID
  have parent : e.traceparent.utf8ByteSize ≤ 55 := by
    rcases valid.traceparent with none | traced
    · rw [none]
      decide
    · exact (traceparent_size traced).le
  have state := valid.tracestate
  have names : ∀ key ∈ repeatedKeys, key.utf8ByteSize ≠ 0 ∧ key.utf8ByteSize ≤ 64 := by decide +kernel
  -- With the optional headers, whether they are there or not.
  let all : List (String × String) :=
    [("event-id", e.eventID.text), ("event-type", e.eventType), ("schema-version", toString e.schemaVersion),
      ("tenant-id", e.tenantID.text), ("correlation-id", e.correlationID), ("causation-id", e.causationID),
      ("request-id", e.requestID), ("traceparent", e.traceparent), ("tracestate", e.tracestate)]
  have part : (repeatedValues e).Sublist all := (List.Sublist.refl _).append List.filter_sublist
  have keys : all.map Prod.fst = repeatedKeys := rfl
  have values : ∀ pair ∈ all, pair.2.utf8ByteSize ≤ 512 := by
    simp only [all, List.forall_mem_cons, List.not_mem_nil, false_implies, implies_true, and_true]
    omega
  have sizes : (all.map fun pair => pair.1.utf8ByteSize + pair.2.utf8ByteSize).sum ≤ 1500 := by
    have prefixes : (repeatedKeys.map String.utf8ByteSize).sum = 98 := by decide +kernel
    have bodies : (all.map fun pair => pair.2.utf8ByteSize).sum ≤ 1309 := by
      simp only [all, List.map_cons, List.map_nil, List.sum_cons, List.sum_nil]
      omega
    have split : (all.map fun pair => pair.1.utf8ByteSize + pair.2.utf8ByteSize).sum =
        (all.map fun pair => pair.1.utf8ByteSize).sum + (all.map fun pair => pair.2.utf8ByteSize).sum :=
      List.sum_map_add
    have first : (all.map fun pair => pair.1.utf8ByteSize) = repeatedKeys.map String.utf8ByteSize := rfl
    rw [split, first]
    omega
  refine ⟨fun pair inside => ?_, ?_⟩
  · have known : pair.1 ∈ repeatedKeys := keys ▸ List.mem_map_of_mem (part.subset inside)
    exact ⟨(names _ known).1, (names _ known).2, values pair (part.subset inside)⟩
  · exact ((part.map _).sum_le_sum fun _ _ => Nat.zero_le _).trans sizes

/-- The headers of a valid body and some others pass together. -/
theorem validateHeaders_append (valid : Checked F decode e) (others : List (String × String))
    (few : others.length ≤ 20) (distinct : (others.map Prod.fst).Nodup)
    (own : ∀ pair ∈ others, pair.1 ∉ repeatedKeys)
    (short : ∀ pair ∈ others, pair.1.utf8ByteSize ≠ 0 ∧ pair.1.utf8ByteSize ≤ 64 ∧ pair.2.utf8ByteSize ≤ 512)
    (total : (others.map fun pair => pair.1.utf8ByteSize + pair.2.utf8ByteSize).sum ≤ 2500) :
    validateHeaders e (headersForEnvelope F e ++ others.map fun pair => header F pair.1 pair.2) = .ok () := by
  obtain ⟨bodyShort, bodyTotal⟩ := repeatedValues_short valid
  have whole : headersForEnvelope F e ++ (others.map fun pair => header F pair.1 pair.2) =
      (repeatedValues e ++ others).map fun pair => header F pair.1 pair.2 := by
    rw [List.map_append]
    rfl
  have keys := repeatedValues_keys e
  have count : (repeatedValues e).length ≤ repeatedKeys.length := by simpa using keys.length_le
  have nine : repeatedKeys.length = 9 := rfl
  have names : ((repeatedValues e ++ others).map fun pair => F.utf8 pair.1).Nodup := by
    have plain : ((repeatedValues e ++ others).map Prod.fst).Nodup := by
      rw [List.map_append]
      refine List.Nodup.append (repeatedKeys_nodup.sublist keys) distinct fun key body other => ?_
      obtain ⟨pair, inside, rfl⟩ := List.mem_map.mp other
      exact own pair inside (keys.subset body)
    have mapped := plain.map (f := F.utf8) fun _ _ same => Format.utf8_inj.mp same
    rwa [List.map_map] at mapped
  rw [whole]
  simp only [validateHeaders, guard_eq_ok, bind_eq_ok]
  refine ⟨by simp only [List.length_map, List.length_append]; omega, (), checkHeaders_ok ?_ ?_ ?_ ?_ ?_, ?_⟩
  · intro h inside
    obtain ⟨pair, member, rfl⟩ := List.mem_map.mp inside
    simp only [header, F.size_utf8]
    rcases List.mem_append.mp member with body | other
    · exact bodyShort pair body
    · exact short pair other
  · intro h _ seen
    cases seen
  · rw [List.map_map]
    exact names
  · rw [List.map_map, List.map_append, List.sum_append]
    simp only [Function.comp_def, header, F.size_utf8]
    omega
  · intro h inside known
    obtain ⟨pair, member, rfl⟩ := List.mem_map.mp inside
    obtain ⟨key, repeated, same⟩ := known
    rcases List.mem_append.mp member with body | other
    · exact expectedValue_eq body
    · exact absurd (Format.utf8_inj.mp same ▸ repeated) (own pair other)
  · have none : (headersForEnvelope F e).find? (fun expected => headerValue
        ((repeatedValues e ++ others).map fun pair => header F pair.1 pair.2) expected.key ≠ expected.value) = none := by
      refine List.find?_eq_none.mpr fun expected inside => ?_
      obtain ⟨pair, member, rfl⟩ := List.mem_map.mp inside
      have distinctKeys : (((repeatedValues e ++ others).map fun pair => header F pair.1 pair.2).map Header.key).Nodup := by
        rw [List.map_map]
        exact names
      have found := Table.get?_key (t := ⟨_, distinctKeys⟩)
        (List.mem_map_of_mem (f := fun pair => header F pair.1 pair.2) (List.mem_append_left others member))
      have value : headerValue ((repeatedValues e ++ others).map fun pair => header F pair.1 pair.2)
          (header F pair.1 pair.2).key = (header F pair.1 pair.2).value := by
        unfold headerValue
        rw [show List.find? (fun h : Header F => h.key = (header F pair.1 pair.2).key) _ = some _ from found]
      simp only [value, ne_eq, not_true_eq_false, decide_false, Bool.false_eq_true, not_false_eq_true]
    rw [none]
    rfl

end AgentForge.Events
