import Folio.Config.Storage
import Folio.Proofs.Config.Pruned
import Folio.Proofs.Text.Utf8

set_option autoImplicit false

namespace Folio

open Json (Number Members members?_keptMembers withDefault_kept withDefault_kept_optional asString?_kept
  asBool?_kept decode_kept_zero)

def ImageSize.numbers (s : ImageSize) : List Number := [.double s.width, .double s.height]

def Config.numbers (c : Config) : List Number :=
  .single c.renderer.scale :: c.options.imageSize.toList.flatMap ImageSize.numbers

section

variable (keep : List String → Bool)

def AssetStoreConfig.overlaid (c : AssetStoreConfig) : AssetStoreConfig where
  uploadBase := if keep ["upload_base"] then c.uploadBase else default.uploadBase
  publicBase := if keep ["public_base"] then c.publicBase else default.publicBase
  uploadToken := if keep ["upload_token"] then c.uploadToken else default.uploadToken

def RendererConfig.overlaid (c : RendererConfig) : RendererConfig where
  endpoint := if keep ["endpoint"] then c.endpoint else default.endpoint
  theme := if keep ["theme"] then c.theme else default.theme
  backgroundColor := if keep ["background_color"] then c.backgroundColor else default.backgroundColor
  scale := if keep ["scale"] then c.scale else default.scale

def ExportOptions.overlaid (o : ExportOptions) : ExportOptions where
  headingTextStyles :=
    if keep ["heading_text_styles"] then o.headingTextStyles else default.headingTextStyles
  tableStrategy := if keep ["table_strategy"] then o.tableStrategy else default.tableStrategy
  diagramLanguages := if keep ["diagram_languages"] then o.diagramLanguages else default.diagramLanguages
  strictTables := if keep ["strict_tables"] then o.strictTables else default.strictTables
  bullet := if keep ["bullet"] then o.bullet else default.bullet
  imageSize := if keep ["image_size"] then o.imageSize else default.imageSize

def Config.overlaid (c : Config) : Config where
  docsEndpoint := if keep ["docs_endpoint"] then c.docsEndpoint else default.docsEndpoint
  accessToken := if keep ["access_token"] then c.accessToken else default.accessToken
  assetStore :=
    if keep ["asset_store"] then c.assetStore.overlaid (beneath "asset_store" keep) else default.assetStore
  renderer := if keep ["renderer"] then c.renderer.overlaid (beneath "renderer" keep) else default.renderer
  options := if keep ["export"] then c.options.overlaid (beneath "export" keep) else default.options

end

theorem Config.overlaid_all (c : Config) : c.overlaid (fun _ => true) = c := rfl

section

variable {f : Number → Number} {keep : List String → Bool} (r : Json.Rules)

def AssetStoreConfig.members (c : AssetStoreConfig) : List (String × Json) :=
  [("upload_base", .string c.uploadBase), ("public_base", .string c.publicBase)] ++
    Json.member? "upload_token" .string c.uploadToken

theorem AssetStoreConfig.members_sublist (c : AssetStoreConfig) :
    (c.members.map (·.1)).Sublist ["upload_base", "public_base", "upload_token"] :=
  (List.Sublist.refl ["upload_base", "public_base"]).append (Json.member?_sublist _ _ _)

theorem AssetStoreConfig.decode?_kept (c : AssetStoreConfig) :
    AssetStoreConfig.decode? r ((c.encode.kept 1 keep).mapNumbers f) = some (c.overlaid keep) := by
  have hms := members?_keptMembers 0 keep f r c.members_sublist (by simp)
  have hupload := withDefault_kept 0 keep f
    (show c.members.lookup "upload_base" = some (.string c.uploadBase) from rfl)
    (asString?_kept _) default.uploadBase
  have hpublic := withDefault_kept 0 keep f
    (show c.members.lookup "public_base" = some (.string c.publicBase) by
      simp [members, List.lookup_cons])
    (asString?_kept _) default.publicBase
  have htoken := withDefault_kept_optional 0 keep f
    (show c.members.lookup "upload_token" = c.uploadToken.map .string by
      simp [members, List.lookup_cons, Json.lookup_member?])
    (fun s _ => asString?_kept s) rfl
  have hencode : c.encode = .object c.members := rfl
  have hdefault : default.uploadToken = none := rfl
  rw [decode?, hencode, hms]
  simp [hdefault, hupload, hpublic, htoken, overlaid]

def RendererConfig.members (c : RendererConfig) : List (String × Json) :=
  [("endpoint", .string c.endpoint), ("theme", .string c.theme),
    ("background_color", .string c.backgroundColor), ("scale", .ofSingle c.scale)]

theorem RendererConfig.decode?_kept {c : RendererConfig} (h : (Number.single c.scale).KeptBy f) :
    RendererConfig.decode? r ((c.encode.kept 1 keep).mapNumbers f) = some (c.overlaid keep) := by
  have hnames : (c.members.map (·.1)).Sublist ["endpoint", "theme", "background_color", "scale"] :=
    List.Sublist.refl _
  have hms := members?_keptMembers 0 keep f r hnames (by simp)
  have hendpoint := withDefault_kept 0 keep f
    (show c.members.lookup "endpoint" = some (.string c.endpoint) from rfl)
    (asString?_kept _) default.endpoint
  have htheme := withDefault_kept 0 keep f
    (show c.members.lookup "theme" = some (.string c.theme) by simp [members, List.lookup_cons])
    (asString?_kept _) default.theme
  have hbackground := withDefault_kept 0 keep f
    (show c.members.lookup "background_color" = some (.string c.backgroundColor) by
      simp [members, List.lookup_cons])
    (asString?_kept _) default.backgroundColor
  have hscale := withDefault_kept 0 keep f
    (show c.members.lookup "scale" = some (.ofSingle c.scale) by simp [members, List.lookup_cons])
    (decode_kept_zero (Json.asSingle?_ofSingle h)) default.scale
  have hencode : c.encode = .object c.members := rfl
  rw [decode?, hencode, hms]
  simp [hendpoint, htheme, hbackground, hscale, overlaid]

theorem ImageSize.decode?_encode {s : ImageSize} (h : ∀ n ∈ s.numbers, n.KeptBy f) :
    ImageSize.decode? r (s.encode.mapNumbers f) = some s := by
  have hwidth := Json.asDouble?_ofDouble (h (.double s.width) (by simp [numbers]))
  have hheight := Json.asDouble?_ofDouble (h (.double s.height) (by simp [numbers]))
  simp [decode?, encode, Json.mapNumbers, Json.members?_mapMembers, Members.required_mapMembers,
    List.lookup_cons, hwidth, hheight]

def ExportOptions.members (o : ExportOptions) : List (String × Json) :=
  [("heading_text_styles", .bool o.headingTextStyles),
    ("table_strategy", .string o.tableStrategy.name),
    ("diagram_languages", .array (o.diagramLanguages.map .string)),
    ("strict_tables", .bool o.strictTables), ("bullet", .string o.bullet)] ++
    Json.member? "image_size" ImageSize.encode o.imageSize

theorem ExportOptions.members_sublist (o : ExportOptions) : (o.members.map (·.1)).Sublist
    ["heading_text_styles", "table_strategy", "diagram_languages", "strict_tables", "bullet",
      "image_size"] :=
  (List.Sublist.refl ["heading_text_styles", "table_strategy", "diagram_languages", "strict_tables",
    "bullet"]).append (Json.member?_sublist _ _ _)

theorem decodeTableStrategy?_name (s : TableStrategy) :
    decodeTableStrategy? r ((Json.string s.name).mapNumbers f) = some s := by
  cases s <;> rfl

theorem decodeLanguages_strings (ss : List String) :
    Json.asList? Json.asString? ((Json.array (ss.map .string)).mapNumbers f) = some ss :=
  Json.asList?_mapNumbers fun s _ => Json.asString?_mapNumbers s

theorem ExportOptions.decode?_kept {o : ExportOptions}
    (h : ∀ n ∈ o.imageSize.toList.flatMap ImageSize.numbers, n.KeptBy f) :
    ExportOptions.decode? r ((o.encode.kept 1 keep).mapNumbers f) = some (o.overlaid keep) := by
  have hms := members?_keptMembers 0 keep f r o.members_sublist (by simp)
  have hheadings := withDefault_kept 0 keep f
    (show o.members.lookup "heading_text_styles" = some (.bool o.headingTextStyles) from rfl)
    (asBool?_kept _) default.headingTextStyles
  have hstrategy := withDefault_kept 0 keep f
    (show o.members.lookup "table_strategy" = some (.string o.tableStrategy.name) by
      simp [members, List.lookup_cons])
    (decode_kept_zero (decodeTableStrategy?_name r o.tableStrategy)) default.tableStrategy
  have hlanguages := withDefault_kept 0 keep f
    (show o.members.lookup "diagram_languages" = some (.array (o.diagramLanguages.map .string)) by
      simp [members, List.lookup_cons])
    (decode_kept_zero (decodeLanguages_strings _)) default.diagramLanguages
  have hstrict := withDefault_kept 0 keep f
    (show o.members.lookup "strict_tables" = some (.bool o.strictTables) by
      simp [members, List.lookup_cons])
    (asBool?_kept _) default.strictTables
  have hbullet := withDefault_kept 0 keep f
    (show o.members.lookup "bullet" = some (.string o.bullet) by simp [members, List.lookup_cons])
    (asString?_kept _) default.bullet
  have hsize := withDefault_kept_optional 0 keep f
    (show o.members.lookup "image_size" = o.imageSize.map ImageSize.encode by
      simp [members, List.lookup_cons, Json.lookup_member?])
    (fun s hs => decode_kept_zero (ImageSize.decode?_encode r fun n hn => h n
      (List.mem_flatMap.2 ⟨s, Option.mem_toList.2 hs, hn⟩))) rfl
  have hencode : o.encode = .object o.members := rfl
  have hdefault : default.imageSize = none := rfl
  rw [decode?, hencode, hms]
  simp [hdefault, hheadings, hstrategy, hlanguages, hstrict, hbullet, hsize, overlaid]

def Config.members (c : Config) : List (String × Json) :=
  [("docs_endpoint", .string c.docsEndpoint)] ++ Json.member? "access_token" .string c.accessToken ++
    [("asset_store", c.assetStore.encode), ("renderer", c.renderer.encode),
      ("export", c.options.encode)]

theorem Config.members_sublist (c : Config) : (c.members.map (·.1)).Sublist
    ["docs_endpoint", "access_token", "asset_store", "renderer", "export"] := by
  simp only [members, List.map_append]
  exact ((List.Sublist.refl ["docs_endpoint"]).append (Json.member?_sublist _ _ c.accessToken)).append
    (List.Sublist.refl ["asset_store", "renderer", "export"])

theorem Config.lookup_members (c : Config) {name : String} (hname : name ≠ "docs_endpoint")
    (hname' : name ≠ "access_token") : c.members.lookup name =
      [("asset_store", c.assetStore.encode), ("renderer", c.renderer.encode),
        ("export", c.options.encode)].lookup name := by
  have hfirst : (name == "docs_endpoint") = false := beq_false_of_ne hname
  simp [members, List.lookup_append, List.lookup_cons, Json.lookup_member?, hfirst, hname']

/-- What is kept of a configuration is decoded over the defaults. -/
theorem Config.decode?_kept {c : Config} (h : ∀ n ∈ c.numbers, n.KeptBy f) :
    Config.decode? r ((c.encode.kept 2 keep).mapNumbers f) = some (c.overlaid keep) := by
  have hms := members?_keptMembers 1 keep f r c.members_sublist (by simp)
  have hendpoint := withDefault_kept 1 keep f
    (show c.members.lookup "docs_endpoint" = some (.string c.docsEndpoint) from rfl)
    (asString?_kept _) default.docsEndpoint
  have htoken := withDefault_kept_optional 1 keep f
    (show c.members.lookup "access_token" = c.accessToken.map .string by
      simp [members, List.lookup_cons, List.lookup_append, Json.lookup_member?])
    (fun s _ => asString?_kept s) rfl
  have hstore := withDefault_kept 1 keep f
    (c.lookup_members (show "asset_store" ≠ "docs_endpoint" by simp) (by simp))
    (c.assetStore.decode?_kept r) default.assetStore
  have hrenderer := withDefault_kept 1 keep f
    (c.lookup_members (show "renderer" ≠ "docs_endpoint" by simp) (by simp))
    (RendererConfig.decode?_kept r (h _ List.mem_cons_self)) default.renderer
  have hoptions := withDefault_kept 1 keep f
    (c.lookup_members (show "export" ≠ "docs_endpoint" by simp) (by simp))
    (ExportOptions.decode?_kept r fun n hn => h n (List.mem_cons_of_mem _ hn)) default.options
  have hencode : c.encode = .object c.members := rfl
  have hdefault : default.accessToken = none := rfl
  rw [decode?, hencode, hms]
  simp [hdefault, hendpoint, htoken, hstore, hrenderer, hoptions, overlaid]

end

theorem ImageSize.isLegible_encode {s : ImageSize} (h : ∀ n ∈ s.numbers, n.Survives) :
    s.encode.isLegible = true := by
  have hwidth := Json.isLegible_ofDouble (h (.double s.width) (by simp [numbers]))
  have hheight := Json.isLegible_ofDouble (h (.double s.height) (by simp [numbers]))
  simp [encode, Json.isLegible, Json.membersLegible, hwidth, hheight]

theorem Config.isLegible_encode {c : Config} (h : ∀ n ∈ c.numbers, n.Survives) :
    c.encode.isLegible = true := by
  have hstore : c.assetStore.encode.isLegible = true := by
    have htoken := Json.membersLegible_member? (o := c.assetStore.uploadToken) "upload_token"
      fun s _ => Json.isLegible_string s
    simp [AssetStoreConfig.encode, Json.isLegible, Json.membersLegible, htoken]
  have hrenderer : c.renderer.encode.isLegible = true := by
    have hscale := Json.isLegible_ofSingle (h _ List.mem_cons_self)
    simp [RendererConfig.encode, Json.isLegible, Json.membersLegible, hscale]
  have hoptions : c.options.encode.isLegible = true := by
    have hsize := Json.membersLegible_member? (o := c.options.imageSize) "image_size" fun s hs =>
      ImageSize.isLegible_encode fun n hn => h n (List.mem_cons_of_mem _
        (List.mem_flatMap.2 ⟨s, Option.mem_toList.2 hs, hn⟩))
    have hlanguages : Json.allLegible (c.options.diagramLanguages.map .string) = true := by
      rw [Json.allLegible_iff, List.forall_mem_map]
      exact fun _ _ => rfl
    simp [ExportOptions.encode, Json.isLegible, Json.membersLegible, hlanguages, hsize]
  have htoken := Json.membersLegible_member? (o := c.accessToken) "access_token"
    fun s _ => Json.isLegible_string s
  simp [encode, Json.isLegible, Json.membersLegible, Json.membersLegible_append, htoken, hstore,
    hrenderer, hoptions]

theorem Config.ofJson?_kept {c : Config} (h : ∀ n ∈ c.numbers, n.Survives) (keep : List String → Bool) :
    ofJson? (c.encode.kept 2 keep).indentedText = some (c.overlaid keep) := by
  rw [ofJson?, Json.read?_indentedText (Json.isLegible_kept 2 keep (isLegible_encode h))]
  exact decode?_kept .strict fun n hn => (h n hn).keptBy_again

def Json.Number.againInToml : Number → Number
  | .double x => .double ((Toml.floatAgain? x).getD x)
  | .single x => .double ((Toml.floatAgain? x.convert).getD x.convert)
  | n => n

/-- Whether a number is found again in TOML, where all numbers have double precision. -/
def Json.Number.SurvivesInToml : Number → Prop
  | .double x => x.isFinite = true ∧ Toml.floatAgain? x = some x
  | .single x => x.isFinite = true ∧ (Toml.floatAgain? x.convert).map Binary.convert = some x
  | .natural n => n < Json.naturalBound
  | .negative _ => True

instance : DecidablePred Json.Number.SurvivesInToml
  | .double x => inferInstanceAs (Decidable (x.isFinite = true ∧ Toml.floatAgain? x = some x))
  | .single x => inferInstanceAs (Decidable (x.isFinite = true ∧
      (Toml.floatAgain? x.convert).map Binary.convert = some x))
  | .natural n => inferInstanceAs (Decidable (n < Json.naturalBound))
  | .negative _ => isTrue trivial

theorem Json.Number.SurvivesInToml.keptBy {n : Number} (h : n.SurvivesInToml) :
    n.KeptBy againInToml := by
  cases n with
  | natural n => exact ⟨h, rfl⟩
  | negative n => rfl
  | double x => exact ⟨h.1, by rw [againInToml, h.2]; rfl⟩
  | single x =>
    obtain ⟨y, hy, hx⟩ := Option.map_eq_some_iff.1 h.2
    exact ⟨h.1, by rw [againInToml, hy]; exact congrArg some hx⟩

def AssetStoreConfig.sheet (c : AssetStoreConfig) : Toml.Sheet :=
  .mk ([("upload_base", .text c.uploadBase), ("public_base", .text c.publicBase)] ++
    c.uploadToken.toList.map fun s => ("upload_token", .text s)) []

def RendererConfig.sheet (c : RendererConfig) : Toml.Sheet :=
  .mk [("endpoint", .text c.endpoint), ("theme", .text c.theme),
    ("background_color", .text c.backgroundColor), ("scale", .number c.scale.convert)] []

def ImageSize.sheet (s : ImageSize) : Toml.Sheet :=
  .mk [("width_pt", .number s.width), ("height_pt", .number s.height)] []

def ExportOptions.sheet (o : ExportOptions) : Toml.Sheet :=
  .mk [("heading_text_styles", .flag o.headingTextStyles), ("table_strategy", .text o.tableStrategy.name),
    ("diagram_languages", .texts o.diagramLanguages), ("strict_tables", .flag o.strictTables),
    ("bullet", .text o.bullet)] (o.imageSize.toList.map fun s => ("image_size", s.sheet))

def Config.sheet (c : Config) : Toml.Sheet :=
  .mk ([("docs_endpoint", .text c.docsEndpoint)] ++
    c.accessToken.toList.map fun s => ("access_token", .text s))
    [("asset_store", c.assetStore.sheet), ("renderer", c.renderer.sheet), ("export", c.options.sheet)]

theorem optionalLine_eq (name : String) (o : Option String) :
    Config.optionalLine name o = (o.toList.map fun s => (name, Toml.Leaf.text s)).flatMap
      fun l => Config.tomlLine l.1 l.2.write := by
  cases o with
  | none => rfl
  | some s => simp [Config.optionalLine, Toml.Leaf.write]

theorem imageSizeToml_eq (o : Option ImageSize) :
    Config.imageSizeToml o =
      Toml.writeParts (o.toList.map fun s => ("image_size", s.sheet)) ["export"] := by
  cases o with
  | none => rfl
  | some s =>
    have hheader : Config.tomlHeader "export.image_size" = Toml.header ["export", "image_size"] := by
      decide
    simp [Config.imageSizeToml, hheader, Toml.writeParts, ImageSize.sheet, Toml.Sheet.write,
      Toml.Leaf.write]

theorem Config.toToml_eq (c : Config) : c.toToml = String.ofList (c.sheet.write []) := by
  have hheader : ∀ name, tomlHeader name = Toml.header [name] := fun _ => rfl
  simp [toToml, sheet, Toml.Sheet.write, Toml.writeParts, storeToml, rendererToml, optionsToml,
    AssetStoreConfig.sheet, RendererConfig.sheet, ExportOptions.sheet, Toml.Leaf.write, hheader,
    optionalLine_eq, imageSizeToml_eq]

theorem AssetStoreConfig.members_sheet (c : AssetStoreConfig) :
    Json.object c.sheet.members = c.encode.mapNumbers Number.againInToml := by
  cases htoken : c.uploadToken <;>
    simp [sheet, Toml.Sheet.members, Toml.Sheet.entries, Toml.partEntries, Toml.entriesToJson,
      Toml.Leaf.value, Toml.toJson, encode, Json.mapNumbers, Json.mapMembers, Json.member?, htoken]

theorem RendererConfig.members_sheet {c : RendererConfig} (h : (Number.single c.scale).SurvivesInToml) :
    Json.object c.sheet.members = c.encode.mapNumbers Number.againInToml := by
  simp [sheet, Toml.Sheet.members, Toml.Sheet.entries, Toml.partEntries, Toml.entriesToJson,
    Toml.Leaf.value, Toml.toJson, encode, Json.mapNumbers, Json.mapMembers, Json.ofSingle, h.1,
    Number.againInToml]

theorem ImageSize.members_sheet {s : ImageSize} (h : ∀ n ∈ s.numbers, n.SurvivesInToml) :
    Json.object s.sheet.members = s.encode.mapNumbers Number.againInToml := by
  have hwidth := (h (.double s.width) (by simp [numbers])).1
  have hheight := (h (.double s.height) (by simp [numbers])).1
  simp [sheet, Toml.Sheet.members, Toml.Sheet.entries, Toml.partEntries, Toml.entriesToJson,
    Toml.Leaf.value, Toml.toJson, encode, Json.mapNumbers, Json.mapMembers, Json.ofDouble, hwidth,
    hheight, Number.againInToml]

theorem itemsToJson_strings (ss : List String) :
    Toml.itemsToJson (ss.map .string) = Json.mapItems Number.againInToml (ss.map .string) := by
  induction ss with
  | nil => rfl
  | cons s ss ih => rw [List.map_cons, Toml.itemsToJson, ih]; rfl

theorem ExportOptions.members_sheet {o : ExportOptions}
    (h : ∀ n ∈ o.imageSize.toList.flatMap ImageSize.numbers, n.SurvivesInToml) :
    Json.object o.sheet.members = o.encode.mapNumbers Number.againInToml := by
  cases hsize : o.imageSize with
  | none =>
    simp [sheet, Toml.Sheet.members, Toml.Sheet.entries, Toml.partEntries, Toml.entriesToJson,
      Toml.Leaf.value, Toml.toJson, encode, Json.mapNumbers, Json.mapMembers, Json.member?, hsize,
      itemsToJson_strings]
  | some s =>
    have hs := ImageSize.members_sheet (s := s) fun n hn => h n (by simpa [hsize] using hn)
    rw [Toml.Sheet.members] at hs
    simp [sheet, Toml.Sheet.members, Toml.Sheet.entries, Toml.partEntries, Toml.entriesToJson,
      Toml.Leaf.value, Toml.toJson, encode, Json.mapNumbers, Json.mapMembers, Json.member?, hsize,
      itemsToJson_strings, hs]

theorem Config.members_sheet {c : Config} (h : ∀ n ∈ c.numbers, n.SurvivesInToml) :
    Json.object c.sheet.members = c.encode.mapNumbers Number.againInToml := by
  have hstore := c.assetStore.members_sheet
  have hrenderer := RendererConfig.members_sheet (h _ List.mem_cons_self)
  have hoptions := ExportOptions.members_sheet fun n hn => h n (List.mem_cons_of_mem _ hn)
  rw [Toml.Sheet.members] at hstore hrenderer hoptions
  cases htoken : c.accessToken <;>
    simp [sheet, Toml.Sheet.members, Toml.Sheet.entries, Toml.partEntries, Toml.entriesToJson,
      Toml.Leaf.value, Toml.toJson, encode, Json.mapNumbers, Json.mapMembers, Json.member?, htoken,
      hstore, hrenderer, hoptions]

theorem AssetStoreConfig.isSound_sheet (c : AssetStoreConfig) : c.sheet.IsSound ["asset_store"] := by
  cases htoken : c.uploadToken <;>
    simp [sheet, htoken, Toml.Sheet.IsSound, Toml.PartsSound, Toml.Leaf.IsLegible] <;> decide

theorem RendererConfig.isSound_sheet {c : RendererConfig} (h : (Number.single c.scale).SurvivesInToml) :
    c.sheet.IsSound ["renderer"] := by
  obtain ⟨y, hy, -⟩ := Option.map_eq_some_iff.1 h.2
  simp [sheet, Toml.Sheet.IsSound, Toml.PartsSound, Toml.Leaf.IsLegible, hy]
  decide

theorem ImageSize.isSound_sheet {s : ImageSize} (h : ∀ n ∈ s.numbers, n.SurvivesInToml) :
    s.sheet.IsSound ["export", "image_size"] := by
  have hwidth := (h (.double s.width) (by simp [numbers])).2
  have hheight := (h (.double s.height) (by simp [numbers])).2
  simp [sheet, Toml.Sheet.IsSound, Toml.PartsSound, Toml.Leaf.IsLegible, hwidth, hheight]
  decide

theorem ExportOptions.isSound_sheet {o : ExportOptions}
    (h : ∀ n ∈ o.imageSize.toList.flatMap ImageSize.numbers, n.SurvivesInToml) :
    o.sheet.IsSound ["export"] := by
  cases hsize : o.imageSize with
  | none =>
    simp [sheet, hsize, Toml.Sheet.IsSound, Toml.PartsSound, Toml.Leaf.IsLegible]
    decide
  | some s =>
    have hs := ImageSize.isSound_sheet (s := s) fun n hn => h n (by simpa [hsize] using hn)
    simp [sheet, hsize, Toml.Sheet.IsSound, Toml.PartsSound, Toml.Leaf.IsLegible, hs]
    decide

theorem Config.isSound_sheet {c : Config} (h : ∀ n ∈ c.numbers, n.SurvivesInToml) :
    c.sheet.IsSound [] := by
  have hstore := c.assetStore.isSound_sheet
  have hrenderer := RendererConfig.isSound_sheet (h _ List.mem_cons_self)
  have hoptions := ExportOptions.isSound_sheet fun n hn => h n (List.mem_cons_of_mem _ hn)
  cases htoken : c.accessToken <;>
    simp [sheet, htoken, Toml.Sheet.IsSound, Toml.PartsSound, Toml.Leaf.IsLegible, hstore, hrenderer,
      hoptions] <;>
    decide

theorem Config.ofToml?_kept {c : Config} (h : ∀ n ∈ c.numbers, n.SurvivesInToml)
    (keep : List String → Bool) :
    ofToml? (String.ofList ((c.sheet.kept 2 keep).write [])) = some (c.overlaid keep) := by
  have hread := Toml.readChars?_write (Toml.isSound_kept 2 keep c.sheet (isSound_sheet h))
  have hkept := Toml.object_kept 2 keep c.sheet
  rw [members_sheet h, ← Json.kept_mapNumbers] at hkept
  rw [ofToml?, Toml.read?, String.toList_ofList, hread, Option.bind_some, Toml.toJson,
    ← Toml.Sheet.members, hkept]
  exact decode?_kept tomlRules fun n hn => (h n hn).keptBy

def Json.Number.SurvivesIn : ConfigFormat → Number → Prop
  | .json, n => n.Survives
  | .toml, n => n.SurvivesInToml

namespace Config

/-- A saved file of which only some members are kept, by their paths; the size of pictures is kept or
dropped as a whole. -/
def keptText (c : Config) (keep : List String → Bool) : ConfigFormat → String
  | .json => (c.encode.kept 2 keep).indentedText
  | .toml => String.ofList ((c.sheet.kept 2 keep).write [])

theorem ofText?_keptText {format : ConfigFormat} {c : Config}
    (h : ∀ n ∈ c.numbers, n.SurvivesIn format) (keep : List String → Bool) :
    ofText? (c.keptText keep format) format = some (c.overlaid keep) := by
  cases format with
  | json => exact ofJson?_kept h keep
  | toml => exact ofToml?_kept h keep

theorem keptText_all (c : Config) (format : ConfigFormat) :
    c.keptText (fun _ => true) format = c.toText format := by
  cases format with
  | json => rw [keptText, Json.kept_all, toText]
  | toml => rw [keptText, Toml.Sheet.kept_all, toText, toToml_eq]

section

variable {path : String} {format : ConfigFormat} (hformat : ConfigFormat.ofPath? path = some format)
  {c : Config} {t t' : File.Tree}
include hformat

theorem load_of_read? {text : String} (hread : t.read? path = some (Text.utf8Bytes text))
    (htext : ofText? text format = some c) : (load File.Tree.access path).run t = (.ok c, t) := by
  rw [load, hformat]
  simp [File.Access.readText?, File.Tree.access, hread, Text.utf8Text?_utf8Bytes, ofText, htext]
  rfl

theorem run_save : (save File.Tree.access path c).run t =
    (if (t.save path (Text.utf8Bytes (c.toText format))).1 then .ok () else .error (.unreachable path),
      (t.save path (Text.utf8Bytes (c.toText format))).2) := by
  rw [save, hformat]
  cases hsave : t.save path (Text.utf8Bytes (c.toText format)) with
  | mk written t' =>
    simp [File.Tree.access, hsave]
    cases written <;> rfl

theorem save_eq_ok_iff : (save File.Tree.access path c).run t = (.ok (), t') ↔
    t.save path (Text.utf8Bytes (c.toText format)) = (true, t') := by
  rw [run_save hformat]
  cases t.save path (Text.utf8Bytes (c.toText format)) with
  | mk written t'' => cases written <;> exact Prod.mk_inj.trans (by simp)

theorem read?_of_save (hsave : (save File.Tree.access path c).run t = (.ok (), t')) :
    t'.read? path = some (Text.utf8Bytes (c.toText format)) := by
  rw [save_eq_ok_iff hformat] at hsave
  have hread := File.Tree.read?_save (congrArg Prod.fst hsave)
  rw [hsave] at hread
  exact hread

end

/-- Configuration survives saving, and partial files overlay the defaults. Saving to a path with a
format succeeds exactly if the file can be written, and what is saved is loaded from there; and from a
file in which only some members are left, these are loaded, and everything else has its default. -/
theorem load_save {path : String} {format : ConfigFormat}
    (hformat : ConfigFormat.ofPath? path = some format) (c : Config)
    (hnumbers : ∀ n ∈ c.numbers, n.SurvivesIn format) :
    (∀ t t' : File.Tree, (save File.Tree.access path c).run t = (.ok (), t') ↔
      t.save path (Text.utf8Bytes (c.keptText (fun _ => true) format)) = (true, t')) ∧
    (∀ t t' : File.Tree, (save File.Tree.access path c).run t = (.ok (), t') →
      t'.read? path = some (Text.utf8Bytes (c.keptText (fun _ => true) format)) ∧
        (load File.Tree.access path).run t' = (.ok c, t')) ∧
    ∀ (keep : List String → Bool) (t : File.Tree),
      t.read? path = some (Text.utf8Bytes (c.keptText keep format)) →
      (load File.Tree.access path).run t = (.ok (c.overlaid keep), t) := by
  have hpartial : ∀ (keep : List String → Bool) (t : File.Tree),
      t.read? path = some (Text.utf8Bytes (c.keptText keep format)) →
      (load File.Tree.access path).run t = (.ok (c.overlaid keep), t) :=
    fun keep t hread => load_of_read? hformat hread (ofText?_keptText hnumbers keep)
  rw [keptText_all]
  refine ⟨fun t t' => save_eq_ok_iff hformat, fun t t' hsave => ?_, hpartial⟩
  have hread := read?_of_save hformat hsave
  refine ⟨hread, ?_⟩
  rw [← keptText_all] at hread
  have hload := hpartial _ t' hread
  rw [overlaid_all] at hload
  exact hload

def full : Config where
  docsEndpoint := "https://docs.e.org"
  accessToken := some "a\"b\\c"
  assetStore := ⟨"http://e.org/up", "http://e.org/'public'", some "two\nlines"⟩
  renderer := ⟨"http://e.org", "dark", "#000000", .ofDecimal false 15 (-1)⟩
  options := ⟨true, .image, ["mermaid", "dot"], true, "- ", some ⟨.ofNat 300, .ofDecimal false 2025 (-1)⟩⟩

theorem load_save_full :
    (load File.Tree.access "quire.toml").run ((save File.Tree.access "quire.toml" full).run .empty).2 =
      (.ok full, ((save File.Tree.access "quire.toml" full).run .empty).2) ∧
    ∃ t, (load File.Tree.access "quire.json").run t =
      (.ok { default with options := { full.options with imageSize := none } }, t) := by
  have htoml : ConfigFormat.ofPath? "quire.toml" = some .toml := by decide
  have hjson : ConfigFormat.ofPath? "quire.json" = some .json := by decide
  have hnumbers : ∀ n ∈ full.numbers, n.SurvivesInToml := by decide +kernel
  have hnumbers' : ∀ n ∈ full.numbers, n.Survives := by decide +kernel
  have hwritten : (File.Tree.empty.save "quire.toml" (Text.utf8Bytes (full.toText .toml))).1 = true := by
    decide +kernel
  have hsave := (save_eq_ok_iff htoml).2 (Prod.ext hwritten rfl)
  refine ⟨?_, (File.Tree.empty.save "quire.json" _).2,
    (load_save hjson full hnumbers').2.2
      (fun path => path.head? == some "export" && path != ["export", "image_size"]) _
      (File.Tree.read?_save (by decide +kernel))⟩
  rw [hsave]
  exact ((load_save htoml full hnumbers).2.1 .empty _ hsave).2

end Config

end Folio
