import Mathlib.Data.List.Forall2
import Mathlib.Data.List.Induction
import RedisCluster.Settings

/-! What settings come to that are made in a row: addresses add up, and for everything else the value
counts that was set last. -/

namespace RedisCluster

/-- The addresses that a setting adds. -/
def Setting.adds : Setting → List String
  | .node endpoint => [endpoint.socketAddress]
  | .nodes endpoints => endpoints.map Endpoint.socketAddress
  | .addresses text => Settings.splitAddresses text
  | _ => []

namespace Settings

/-- All addresses that are given by some settings, in their order. -/
def given (made : List Setting) : List String :=
  made.flatMap Setting.adds

/-- One more setting is made behind the others. -/
theorem ofList_concat (made : List Setting) (setting : Setting) :
    ofList (made ++ [setting]) = (ofList made).make setting :=
  List.foldl_concat ..

/-- The addresses are all that were given. -/
theorem addresses_ofList (made : List Setting) : (ofList made).addresses = given made := by
  induction made using List.reverseRecOn with
  | nil => rfl
  -- The last setting adds its addresses behind the others.
  | append_singleton made setting ih =>
    rw [ofList_concat, given, List.flatMap_append, ← given, ← ih]
    cases setting <;> simp [make, Setting.adds]

section Last

variable {α β : Type} {kind : α → Setting} {made : List Setting} {last : Option α}

/-- What settings of one kind have set last, if any of them was made. -/
def Last (kind : α → Setting) (made : List Setting) : Option α → Prop
  | some value => ∃ before after, made = before ++ kind value :: after ∧ ∀ other, kind other ∉ after
  | none => ∀ value, kind value ∉ made

/-- A setting counts if no other of its kind follows. -/
theorem last_concat (made : List Setting) (value : α) :
    Last kind (made ++ [kind value]) (some value) :=
  ⟨made, [], rfl, fun _ => List.not_mem_nil⟩

/-- A setting of another kind changes nothing. -/
theorem Last.concat_other (counts : Last kind made last) {setting : Setting}
    (other : ∀ value, setting ≠ kind value) : Last kind (made ++ [setting]) last := by
  cases last with
  | none =>
    -- The new setting is of another kind, and none of this kind came before it.
    intro value member
    rcases List.mem_append.1 member with earlier | new
    · exact counts value earlier
    · exact other value (List.mem_singleton.1 new).symm
  | some value =>
    obtain ⟨before, after, rfl, later⟩ := counts
    -- The new setting stands behind all that followed.
    refine ⟨before, after ++ [setting], by simp, fun value member => ?_⟩
    rcases List.mem_append.1 member with earlier | new
    · exact later value earlier
    · exact other value (List.mem_singleton.1 new).symm

/-- Something has been set last, or nothing was. -/
theorem exists_last (kind : α → Setting) (made : List Setting) : ∃ last, Last kind made last := by
  induction made using List.reverseRecOn with
  | nil => exact ⟨none, fun _ => List.not_mem_nil⟩
  | append_singleton made setting ih =>
    -- The setting that comes last is of this kind, or an earlier one counts.
    by_cases same : ∃ value, setting = kind value
    · obtain ⟨value, rfl⟩ := same
      exact ⟨some value, last_concat made value⟩
    · obtain ⟨last, counts⟩ := ih
      exact ⟨last, counts.concat_other fun value equal => same ⟨value, equal⟩⟩

/-- A field of the settings shows what settings of one kind set, and nothing else. -/
structure Shows (kind : α → Setting) (field : Settings → β) (shown : Option α → β) : Prop where
  fresh : field {} = shown none := by rfl
  set : ∀ settings value, field (make settings (kind value)) = shown (some value) := by
    intro settings value
    rfl
  kept : ∀ settings setting, (∃ value, setting = kind value) ∨
      field (make settings setting) = field settings := by
    intro settings setting
    cases setting <;> simp [make]

namespace Shows

variable {field : Settings → β} {shown : Option α → β}

/-- Settings of other kinds leave a field as it was. -/
theorem foldl_make (shows : Shows kind field shown) {after : List Setting}
    (others : ∀ value, kind value ∉ after) (settings : Settings) :
    field (after.foldl make settings) = field settings := by
  induction after generalizing settings with
  | nil => rfl
  | cons setting after ih =>
    -- No setting that follows is of this kind.
    have other : ¬∃ value, setting = kind value := by
      rintro ⟨value, rfl⟩
      exact others value List.mem_cons_self
    rw [List.foldl_cons, ih fun value member => others value (List.mem_cons_of_mem _ member),
      (shows.kept settings setting).resolve_left other]

/-- A field shows what was set last. -/
theorem eq_of_last (shows : Shows kind field shown) (counts : Last kind made last) :
    field (ofList made) = shown last := by
  cases last with
  -- Nothing was set, so the field is as it was at first.
  | none => rw [ofList, shows.foldl_make counts, shows.fresh]
  | some value =>
    obtain ⟨before, after, rfl, others⟩ := counts
    -- What came before is overwritten, and what comes behind is about something else.
    rw [ofList, List.foldl_append, List.foldl_cons, shows.foldl_make others, shows.set]

/-- There is something that a field shows. -/
theorem exists_last (shows : Shows kind field shown) (made : List Setting) :
    ∃ last, Last kind made last ∧ field (ofList made) = shown last := by
  obtain ⟨last, counts⟩ := Settings.exists_last kind made
  exact ⟨last, counts, shows.eq_of_last counts⟩

end Shows

end Last

/-- Settings show the addresses that were given and the values that were set last, and a default where
nothing was set. -/
structure Reflects (settings : Settings) (made : List Setting) : Prop where
  addresses : settings.addresses = given made
  username : ∃ last, Last .username made last ∧ settings.connection.username = last
  password : ∃ last, Last .password made last ∧ settings.connection.password = last
  clientName : ∃ last, Last .clientName made last ∧ settings.connection.clientName = last
  connectTimeout : ∃ last, Last .connectTimeout made last ∧
    settings.connection.connectTimeout = last.getD (.ofSeconds 2)
  readTimeout : ∃ last, Last .readTimeout made last ∧
    settings.connection.readTimeout = last.getD (.ofSeconds 2)
  writeTimeout : ∃ last, Last .writeTimeout made last ∧
    settings.connection.writeTimeout = last.getD (.ofSeconds 2)
  maxConnections : ∃ last, Last .maxConnections made last ∧
    settings.pool.maxConnections = last.getD 8
  waitTimeout : ∃ last, Last .waitTimeout made last ∧
    settings.pool.waitTimeout = last.getD (.ofSeconds 2)
  maxRedirects : ∃ last, Last .maxRedirects made last ∧ settings.maxRedirects = last.getD 5
  translator : ∃ last, Last .translator made last ∧ settings.translator = last.getD .identity

/-- The number of attempts is the one that was set last, or five. -/
theorem shows_maxRedirects : Shows .maxRedirects (·.maxRedirects) (·.getD 5) where

/-- Settings that are made in a row show what was set last. -/
theorem reflects_ofList (made : List Setting) : (ofList made).Reflects made where
  addresses := addresses_ofList made
  username := ({} : Shows .username (·.connection.username) id).exists_last made
  password := ({} : Shows .password (·.connection.password) id).exists_last made
  clientName := ({} : Shows .clientName (·.connection.clientName) id).exists_last made
  connectTimeout := ({} : Shows _ (·.connection.connectTimeout) (·.getD _)).exists_last made
  readTimeout := ({} : Shows _ (·.connection.readTimeout) (·.getD _)).exists_last made
  writeTimeout := ({} : Shows _ (·.connection.writeTimeout) (·.getD _)).exists_last made
  maxConnections := ({} : Shows _ (·.pool.maxConnections) (·.getD _)).exists_last made
  waitTimeout := ({} : Shows _ (·.pool.waitTimeout) (·.getD _)).exists_last made
  maxRedirects := shows_maxRedirects.exists_last made
  translator := ({} : Shows _ (·.translator) (·.getD _)).exists_last made

end Settings

end RedisCluster
