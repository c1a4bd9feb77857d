import DeclaredSettings.Proofs.Json.DocumentValues
import DeclaredSettings.Proofs.Settings.SpellingInvariance
import DeclaredSettings.Settings.Error

/-! Settings are read back from their text. The text is a document of the settings' value, so
reading it is reading the value, which makes the keys canonical once more. Two texts are the
same only for the same settings.
-/

namespace DeclaredSettings

-----------------------------------------------------------------------------------------
-- Equality of values that can be read back
-----------------------------------------------------------------------------------------

namespace Value

/-- Arrays are equal if their items are, by induction on these. -/
theorem sameItems_iff {items : List Value}
    (h : ∀ item ∈ items, ∀ other, same item other = true ↔ item = other)
    (others : List Value)
    : sameItems items others = true ↔ items = others := by
  induction items generalizing others with
  | nil => cases others <;> simp [sameItems]
  | cons item items ih =>
      obtain ⟨hfirst, hitems⟩ := List.forall_mem_cons.mp h
      cases others with
      | nil => simp [sameItems]
      | cons other others =>
          simp only [sameItems, Bool.and_eq_true, hfirst, ih hitems, List.cons.injEq]

/-- Objects are equal if their entries are, by induction on these. -/
theorem sameEntries_iff {entries : List (String × Value)}
    (h : ∀ e ∈ entries, ∀ other, same e.2 other = true ↔ e.2 = other)
    (others : List (String × Value))
    : sameEntries entries others = true ↔ entries = others := by
  induction entries generalizing others with
  | nil => cases others <;> simp [sameEntries]
  | cons e entries ih =>
      obtain ⟨hfirst, hentries⟩ := List.forall_mem_cons.mp h
      obtain ⟨key, value⟩ := e
      cases others with
      | nil => simp [sameEntries]
      | cons other others =>
          simp only [sameEntries, Bool.and_eq_true, beq_iff_eq, hfirst, ih hentries,
            List.cons.injEq, Prod.ext_iff]

/-- A value without floating-point numbers equals itself alone, by induction on how it is
nested.
-/
theorem Readable.same_iff {room : Nat} {v : Value} (h : v.Readable room) (other : Value)
    : v.same other = true ↔ v = other := by
  induction h generalizing other with
  | arr _ ih =>
      cases other with
      | arr others => simp only [same, sameItems_iff ih, arr.injEq]
      | _ => simp [same]
  | obj _ _ ih =>
      cases other with
      | obj others => simp only [same, sameEntries_iff ih, obj.injEq]
      | _ => simp [same]
  | _ => cases other <;> simp [same]

end Value

namespace Settings

-----------------------------------------------------------------------------------------
-- Reading settings back
-----------------------------------------------------------------------------------------

/-- The value of settings is their mapping, since their entries ascend already. -/
theorem toMapping?_toValue (s : Settings) : s.toValue.toMapping? = some s.toMapping := by
  have hentries := Entries.insertAll_nil_of_ascending s.ascending
  simp only [toValue, Value.toMapping?, Mapping.ofList, hentries]

/-- So reading this value is reloading the settings. -/
theorem ofValue_toValue (s : Settings) : ofValue s.toValue = .ok s.reload := by
  rw [ofValue, s.toMapping?_toValue, reload]

theorem deserialize_toValue (s : Settings) : deserialize s.toValue = .ok s.reload := by
  rw [deserialize, s.toMapping?_toValue, reload]

/-- Reloading puts the entries in again under the canonical forms of their keys. -/
theorem entries_reload (s : Settings)
    : s.reload.entries
      = Entries.insertAll [] (s.entries.map fun e => (canonical e.1, e.2)) := by
  rw [reload, ofMapping_eq_ofPairs, entries_ofPairs]

/-- Reloading changes nothing where no key is a symbol: the keys are canonical then. -/
theorem reload_eq_self {s : Settings} (h : ∀ key ∈ s.keys, ¬ IsSymbol key)
    : s.reload = s := by
  rw [reload, ofMapping_eq_ofPairs]
  refine eq_of_entries_eq (entries_ofPairs_of_canonical fun e he => ?_)
  have hplain := h e.1 (List.mem_map_of_mem he)
  exact (canonical_eq_self_iff e.1).mpr ⟨s.tidy e he, hplain⟩

theorem ofJson_text {s : Settings} (h : s.toValue.Readable Json.greatestDepth)
    : ofJson s.toValue.text = ofValue s.toValue := by
  rw [ofJson, Json.document_text h]

/-- Settings with one value are the same settings. -/
theorem eq_of_toValue_eq {s other : Settings} (h : s.toValue = other.toValue)
    : s = other :=
  eq_of_entries_eq (Value.obj.inj h)

/-- Settings with one text are the same settings, since the text is a document of both. -/
theorem eq_of_text_eq {s other : Settings} (h : s.toValue.Readable Json.greatestDepth)
    (hother : other.toValue.Readable Json.greatestDepth)
    (htext : s.toValue.text = other.toValue.text)
    : s = other := by
  have hdocument := Json.document_text hother
  rw [← htext, Json.document_text h] at hdocument
  exact eq_of_toValue_eq (Except.ok.inj hdocument)

/-- Settings that can be read back equal themselves alone. -/
theorem same_iff {s other : Settings} {room : Nat} (h : s.toValue.Readable room)
    : s.same other = true ↔ s = other := by
  have hvalue : s.same other = true ↔ s.toValue = other.toValue :=
    h.same_iff other.toValue
  rw [hvalue]
  exact ⟨eq_of_toValue_eq, congrArg toValue⟩

-----------------------------------------------------------------------------------------
-- Settings that were read from a text
-----------------------------------------------------------------------------------------

theorem mem_entries_ofMapping {m : Mapping} {e : String × Value}
    (h : e ∈ (ofMapping m).entries)
    : ∃ f ∈ m.entries, (canonical f.1, f.2) = e := by
  rw [ofMapping_eq_ofPairs, entries_ofPairs] at h
  rcases Entries.mem_insertAll h with h | h
  · exact absurd h List.not_mem_nil
  · exact List.mem_map.mp h

/-- Settings of a value that was read with some room are formed for the same room. -/
theorem formed_of_ofValue {room : Nat} {v : Value} {s : Settings} (h : v.Formed room)
    (hs : ofValue v = .ok s)
    : s.toValue.Formed room := by
  cases h with
  | @obj room entries ascending inside =>
      obtain rfl := Except.ok.inj hs
      refine .obj (ofMapping (.ofList entries)).ascending fun e he => ?_
      obtain ⟨f, hf, rfl⟩ := mem_entries_ofMapping he
      exact (Entries.mem_insertAll hf).elim (absurd · List.not_mem_nil) (inside f)
  | _ => cases hs

/-- Settings that were read from a text are formed for the depth that is read at most. -/
theorem formed_of_ofJson {text : String} {s : Settings} (h : ofJson text = .ok s)
    : s.toValue.Formed Json.greatestDepth := by
  unfold ofJson at h
  split at h
  · next v hdocument => exact formed_of_ofValue (Json.formed_of_document hdocument) h
  · cases h

end Settings

/-- Settings go through their text unharmed. Where they hold no floating-point number and
are nested as deeply as the reader goes at most, their text is read as their value would be
read: the same values, under the keys made canonical once more, and so the settings
themselves where no key is a symbol. Two such settings have one text if and only if they
are equal. Settings that were read from a text are nested no deeper than that.
-/
theorem settings_text_round_trip
    : (∀ s : Settings,
          s.toValue.Readable Json.greatestDepth
          → Settings.ofJson s.toValue.text = Settings.ofValue s.toValue
            ∧ Settings.ofJson s.toValue.text = .ok s.reload
            ∧ s.reload.entries
              = Entries.insertAll [] (s.entries.map fun e => (canonical e.1, e.2))
            ∧ ((∀ key ∈ s.keys, ¬ IsSymbol key)
                → Settings.ofJson s.toValue.text = .ok s))
      ∧ (∀ s other : Settings,
          s.toValue.Readable Json.greatestDepth
          → other.toValue.Readable Json.greatestDepth
          → (s.toValue.text = other.toValue.text ↔ s = other)
            ∧ (s.same other = true ↔ s = other))
      ∧ ∀ text s,
          Settings.ofJson text = .ok s
          → s.toValue.FloatFree
          → s.toValue.Readable Json.greatestDepth
            ∧ Settings.ofJson s.toValue.text = .ok s.reload := by
  refine ⟨fun s h => ?_, fun s other h hother => ⟨⟨?_, ?_⟩, Settings.same_iff h⟩, ?_⟩
  · have hvalue := Settings.ofJson_text h
    have hreload := hvalue.trans s.ofValue_toValue
    refine ⟨hvalue, hreload, s.entries_reload, fun hplain => ?_⟩
    rw [hreload, Settings.reload_eq_self hplain]
  · exact Settings.eq_of_text_eq h hother
  · rintro rfl
    rfl
  · intro text s h hfree
    have hreadable := (Settings.formed_of_ofJson h).readable hfree
    exact ⟨hreadable, (Settings.ofJson_text hreadable).trans s.ofValue_toValue⟩

/-- Settings with the least and the greatest whole number, and with characters that are
escaped in one way or another.
-/
def extremes : Settings :=
  .ofPairs [("limits", .arr [.int Value.minInt, .int Value.maxInt]),
    (":text", .obj [("escaped", .str "\"\\\n\x01é")])]

/-- Settings with a symbol among their keys. -/
def withSymbol : Settings :=
  .ofPairs [("::a", .null)]

theorem readable_extremes : extremes.toValue.Readable Json.greatestDepth := by
  have hvalue : extremes.toValue
      = .obj [("limits", .arr [.int Value.minInt, .int Value.maxInt]),
        ("text", .obj [("escaped", .str "\"\\\n\x01é")])] := rfl
  have hnumber : ∀ n ∈ [Value.int Value.minInt, .int Value.maxInt], n.Readable 125 := by
    intro n hn
    rcases List.mem_pair.mp hn with rfl | rfl
    · exact .int (by decide) (by decide)
    · exact .int (by decide) (by decide)
  rw [hvalue]
  refine .obj (List.pairwise_pair.mpr (by decide)) fun e he => ?_
  rcases List.mem_pair.mp he with rfl | rfl
  · exact .arr hnumber
  · refine .obj (List.pairwise_singleton _ _) fun e he => ?_
    obtain rfl := List.mem_singleton.mp he
    exact .str _

theorem readable_withSymbol : withSymbol.toValue.Readable Json.greatestDepth := by
  refine .obj (List.pairwise_singleton _ _) fun e he => ?_
  obtain rfl := List.mem_singleton.mp he
  exact .null

theorem floatFree_reload_withSymbol : withSymbol.reload.toValue.FloatFree := by
  refine .obj fun e he => ?_
  obtain rfl := List.mem_singleton.mp he
  exact .null

/-- The law at these: the first are read back as they are, and the second under a shorter
key, under which they are read back once more.
-/
theorem settings_text_round_trip_extremes
    : extremes.toValue.Readable Json.greatestDepth
      ∧ Settings.ofJson extremes.toValue.text = .ok extremes
      ∧ withSymbol.toValue.Readable Json.greatestDepth
      ∧ Settings.ofJson withSymbol.toValue.text = .ok withSymbol.reload
      ∧ withSymbol.reload.entries = [("a", .null)]
      ∧ Settings.ofJson withSymbol.reload.toValue.text = .ok withSymbol.reload.reload
      ∧ extremes.toValue.text ≠ withSymbol.toValue.text := by
  obtain ⟨hread, hequal, hagain⟩ := settings_text_round_trip
  have hplain : ∀ key ∈ extremes.keys, ¬ IsSymbol key := by
    rw [show extremes.keys = ["limits", "text"] from rfl]
    decide
  have hreadPlain := (hread extremes readable_extremes).2.2.2 hplain
  have hreadSymbol := (hread withSymbol readable_withSymbol).2.1
  have hother : extremes ≠ withSymbol := by
    intro heq
    exact absurd (congrArg Settings.size heq) (by decide)
  have htexts := (hequal extremes withSymbol readable_extremes readable_withSymbol).1
  have hreadAgain := (hagain _ _ hreadSymbol floatFree_reload_withSymbol).2
  exact ⟨readable_extremes, hreadPlain, readable_withSymbol, hreadSymbol, rfl, hreadAgain,
    fun heq => hother (htexts.mp heq)⟩

end DeclaredSettings
