import ReleasePackaging.Config.Basic
import ReleasePackaging.Proofs.Value.Plain

/-!
# Settings as plain data

The settings of a configuration are plain data if its logging section is. The standard configuration
is such a one.
-/
namespace ReleasePackaging.Config

variable {c : Config}

/-- The settings of a configuration whose logging section is exported as it is. -/
def plainEntries (c : Config) : Entries :=
  let optional (text : Option String) : Value := (text.map Value.str).getD .null
  let texts (words : List String) : Value := .list (words.map Value.str)
  [(.str "library_identifier", .str c.library), (.str "product_prefix", .str c.product),
   (.str "version", optional c.version), (.str "manifest_path", .str c.manifest.toString),
   (.str "project_dir", .str c.projectDir.toString), (.str "build_root", .str c.buildRoot.toString),
   (.str "output_dir", .str c.outputDir.toString), (.str "dev_mode", .bool c.devMode),
   (.str "host_os", optional c.host), (.str "update_command", texts c.updateCommand),
   (.str "build_command", texts c.buildCommand), (.str "post_build_hook", optional c.postBuildHook),
   (.str "logging", .map c.logging)]

theorem toEntries_of_isPlain (hplain : (Value.map c.logging).IsPlain) :
    c.toEntries = .ok c.plainEntries := by
  rw [toEntries, Value.exported_of_isPlain _ hplain]
  rfl

theorem hasTextKeys_plainEntries (c : Config) : c.plainEntries.HasTextKeys :=
  ⟨settingNames, by decide, rfl⟩

theorem arePlain_texts (words : List String) : Value.ArePlain (words.map .str) := by
  induction words with
  | nil => trivial
  | cons word words ih => exact ⟨trivial, ih⟩

theorem isPlain_optional (text : Option String) : ((text.map Value.str).getD .null).IsPlain := by
  cases text <;> trivial

theorem isPlain_plainEntries (hplain : (Value.map c.logging).IsPlain) :
    (Value.map c.plainEntries).IsPlain :=
  ⟨hasTextKeys_plainEntries c, trivial, trivial, isPlain_optional _, trivial, trivial, trivial,
    trivial, trivial, isPlain_optional _, arePlain_texts _, arePlain_texts _, isPlain_optional _,
    hplain, trivial⟩

/-! ## The standard configuration -/

theorem isPlain_standard : (Value.map standard.logging).IsPlain := by
  have hsmall {n : Nat} (hn : n < 10 ^ 8) : (n : Int).natAbs < 10 ^ Number.digitLimit :=
    Nat.lt_of_lt_of_le hn (Nat.pow_le_pow_right (by decide) (by decide))
  have hconsole : Entries.HasTextKeys [(.str "enabled", .bool true)] :=
    ⟨["enabled"], by decide, rfl⟩
  have hfile : Entries.HasTextKeys [(.str "enabled", .bool false),
      (.str "path", .str "logs/tonpack.log"), (.str "max_bytes", .int (10 * 1024 * 1024)),
      (.str "backup_count", .int 5)] :=
    ⟨["enabled", "path", "max_bytes", "backup_count"], by decide, rfl⟩
  exact ⟨⟨["level", "format", "console", "file"], by decide, rfl⟩, trivial, trivial,
    ⟨hconsole, trivial, trivial⟩,
    ⟨hfile, trivial, trivial, hsmall (n := 10 * 1024 * 1024) (by decide),
      hsmall (n := 5) (by decide), trivial⟩, trivial⟩

theorem standardEntries_eq : standardEntries = standard.plainEntries := by
  rw [standardEntries, toEntries_of_isPlain isPlain_standard]

end ReleasePackaging.Config
