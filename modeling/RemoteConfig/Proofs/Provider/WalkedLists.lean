import RemoteConfig.Proofs.Provider.Plan
import RemoteConfig.Proofs.Text.CommaList

/-!
# What a load walks over

A load walks over base addresses and labels.  Both are comma-separated lists of
the options, so none of their items is blank, unless a registry names the base
addresses.

* `loadNow_eq_loadOver` says that a load depends on these lists through
  `baseAddresses` and `labels` only.
* `mem_baseAddresses` says where base addresses come from.
* `walked_lists` puts this together with the reading of comma-separated lists.
* `blank_base_walked` is a load of a blank base address.
-/

namespace RemoteConfig

open Text (IsCommaList IsItem allBlank commaItems join)

namespace Provider

variable {σ : Type}

/-- A load that walks over these base addresses and labels. -/
def loadOver (net : Servers σ) (bases labels : List String) (update : Bool)
    (cancellation : Cancellation) (p : Provider) (servers : σ) : LoadResult × Provider × σ :=
  let (located, s) := (Attempts.ofWalk p.walker net bases labels).run p.options.retry
    p.options.failFast (p.session cancellation servers)
  let (result, p) := (p.afterAttempts s.metrics).conclude update located
  (result, p, s.servers)

theorem loadNow_eq_loadOver (net : Servers σ) (update : Bool) (cancellation : Cancellation)
    (p : Provider) (servers : σ) :
    p.loadNow net update cancellation servers =
      p.loadOver net p.baseAddresses p.options.labels update cancellation servers :=
  rfl

/-- The registry, asked because the options say so, names this base address. -/
def IsRegistered (p : Provider) (base : String) : Prop :=
  p.options.discovery.enabled = true ∧
    ∃ l, p.locator = some l ∧ l.available = true ∧ base ∈ l.resolve p.options.discovery.serviceId

/-- A base address is one of the options or one of the registry. -/
theorem mem_baseAddresses {p : Provider} {base : String} (h : base ∈ p.baseAddresses) :
    base ∈ p.options.uris ∨ p.IsRegistered base := by
  unfold baseAddresses Discovery.baseUris at h
  split at h
  · exact .inl h
  rename_i henabled
  split at h
  · exact .inl h
  rename_i l hlocator
  split at h
  · exact .inl h
  rename_i havailable
  dsimp only at h
  split at h
  · exact .inl h
  · exact .inr ⟨by simpa using henabled, l, hlocator, by simpa using havailable, h⟩

end Provider

theorem ClientOptions.isItem_of_mem_uris {o : ClientOptions} {base : String} (h : base ∈ o.uris) :
    IsItem base :=
  Text.isItem_of_mem_commaItems h

theorem ClientOptions.labels_eq (o : ClientOptions) :
    o.labels = (o.label.map commaItems).getD [] := by
  unfold labels
  cases o.label <;> rfl

theorem ClientOptions.isItem_of_mem_labels {o : ClientOptions} {label : String}
    (h : label ∈ o.labels) : IsItem label := by
  rw [labels_eq] at h
  cases hlabel : o.label with
  | none => simp [hlabel] at h
  | some l =>
    rw [hlabel] at h
    exact Text.isItem_of_mem_commaItems h

/-- A comma-separated list is read as it was written, however it was, and what any
text is read as are items that are read back.  The base addresses and the labels
of options are read in this way, and a load walks over nothing else but what a
registry names: no label is blank, and a blank base address is one that the
registry names. -/
theorem walked_lists :
    (∀ items s, IsCommaList items s → commaItems s = items) ∧
      (∀ s, (∀ x ∈ commaItems s, IsItem x) ∧
        commaItems (join "," (commaItems s)) = commaItems s) ∧
      (∀ o : ClientOptions, o.uris = commaItems o.uri ∧
        o.labels = (o.label.map commaItems).getD []) ∧
      ∀ {σ : Type} (net : Servers σ) update cancellation (p : Provider) servers,
        p.loadNow net update cancellation servers =
            p.loadOver net p.baseAddresses p.options.labels update cancellation servers ∧
          (∀ label ∈ p.options.labels, allBlank label = false) ∧
          ∀ base ∈ p.baseAddresses, allBlank base = true → p.IsRegistered base := by
  refine ⟨fun _ _ => Text.commaItems_eq_iff.2, fun s => ?_, fun o => ⟨rfl, o.labels_eq⟩,
    fun net update cancellation p servers => ?_⟩
  · have hitems : ∀ x ∈ commaItems s, IsItem x := fun _ => Text.isItem_of_mem_commaItems
    exact ⟨hitems, Text.commaItems_join hitems⟩
  · refine ⟨p.loadNow_eq_loadOver net update cancellation servers, fun label hlabel => ?_,
      fun base hbase hblank => ?_⟩
    · exact (ClientOptions.isItem_of_mem_labels hlabel).not_allBlank
    · refine (Provider.mem_baseAddresses hbase).resolve_left fun hmem => ?_
      have hitem := (ClientOptions.isItem_of_mem_uris hmem).not_allBlank
      rw [hblank] at hitem
      cases hitem

/-- Two labels between blanks of several kinds, with a blank piece and an empty one. -/
theorem walked_lists_spaced :
    commaItems "\u3000main line\u00a0,\u2003\t,release,, " = ["main line", "release"] := by
  have hpieces : Text.IsPieces ["main line", "release"]
      [['\u3000'] ++ ("main line".toList ++ ['\u00a0']), ['\u2003', '\t'],
        [] ++ ("release".toList ++ []), [], [' ']] :=
    .item (by decide) (by decide) (by decide +kernel) <| .blank (by decide) <|
      .item (by decide) (by decide) (by decide +kernel) <| .blank (by decide) <|
        .blank (by decide) .nil
  exact walked_lists.1 _ _ ⟨_, hpieces, by decide +kernel⟩

/-- The registry names a blank base address, and the load fails over it without a
request. -/
theorem blank_base_walked :
    let net : Servers Unit := { reply := fun _ s => (.silence, s) }
    let o : ClientOptions := { discovery := { enabled := true }, failFast := true }
    let p : Provider := .ofOptions o (some { available := true, resolve := fun _ => [" "] })
    p.baseAddresses = [" "] ∧ allBlank " " = true ∧
      (p.load net true .never ()).1 =
        .error (.exhausted [⟨" ", .invalidUri " " "relative URL without a base"⟩]) := by
  decide +kernel

end RemoteConfig
