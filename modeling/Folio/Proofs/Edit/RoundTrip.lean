import Folio.Edit.Wire
import Folio.Proofs.Json.Members
/-!
Requests are decoded from what is sent. Each structure is decoded from its encoding, whatever is done
to the numbers in it as long as a decoder still finds them; with this, a batch is read from its text.
-/
set_option autoImplicit false

namespace Folio

namespace Edit

open Json (Number members? members?_mapMembers mapNumbers isLegible membersLegible)

def Size.numbers (s : Size) : List Number := [.double s.height, .double s.width]

def FontFamily.numbers (f : FontFamily) : List Number := f.weight.toList.map .natural

def Color.numbers (c : Color) : List Number := [.single c.red, .single c.green, .single c.blue]

def TextStyle.numbers (s : TextStyle) : List Number :=
  s.font.toList.flatMap FontFamily.numbers ++ s.background.toList.flatMap Color.numbers ++
    s.size.toList.map .double

def Range.numbers (r : Range) : List Number := [.natural r.start, .natural r.stop]

def Request.numbers : Request → List Number
  | .insertText index _ => [.natural index]
  | .styleParagraph range _ _ => range.numbers
  | .styleText range style _ => range.numbers ++ style.numbers
  | .insertImage index _ size => .natural index :: size.toList.flatMap Size.numbers
  | .insertTable index rows columns => [.natural index, .natural rows, .natural columns]
  | .delete range => range.numbers

def weightBound : Nat := 65536

def TextStyle.weight? (s : TextStyle) : Option Nat := s.font.bind (·.weight)

def Request.weight? : Request → Option Nat
  | .styleText _ style _ => style.weight?
  | _ => none

section

open Json.Members (required_mapMembers withDefault_optional)

variable {f : Number → Number}

theorem decodePoints?_encode {x : Double} (h : (Number.double x).KeptBy f) :
    decodePoints? ((encodePoints x).mapNumbers f) = some x := by
  have hmagnitude := Json.asDouble?_ofDouble h
  simp [decodePoints?, encodePoints, members?, members?_mapMembers, required_mapMembers, mapNumbers,
    List.lookup_cons, hmagnitude, decodeUnit?, Json.asName?, Json.Rules.asName?]

theorem Size.decode?_encode {s : Size} (h : ∀ n ∈ s.numbers, n.KeptBy f) :
    Size.decode? (s.encode.mapNumbers f) = some s := by
  have hheight := decodePoints?_encode (h (.double s.height) (by simp [numbers]))
  have hwidth := decodePoints?_encode (h (.double s.width) (by simp [numbers]))
  simp [Size.decode?, Size.encode, members?, members?_mapMembers, required_mapMembers, mapNumbers,
    List.lookup_cons, hheight, hwidth]

theorem FontFamily.decode?_encode {font : FontFamily} (h : ∀ n ∈ font.numbers, n.KeptBy f)
    (hweight : ∀ w ∈ font.weight, w < weightBound) :
    FontFamily.decode? (font.encode.mapNumbers f) = some font := by
  have hweight : ∀ w ∈ font.weight, Json.asNat? 65536 ((Json.nat w).mapNumbers f) = some w :=
    fun w hw => Json.asNat?_nat (h (.natural w) (by simpa [numbers] using hw)) (hweight w hw)
  have hnames : ((("fontFamily", Json.string font.name) ::
      Json.member? "weight" .nat font.weight).map (·.1)).Sublist ["fontFamily", "weight"] :=
    (Json.member?_sublist .nat "weight" font.weight).cons_cons "fontFamily"
  have hlookup : (("fontFamily", Json.string font.name) ::
      Json.member? "weight" .nat font.weight).lookup "weight" = font.weight.map .nat := by
    simp [List.lookup_cons, Json.lookup_member?]
  have hmember := withDefault_optional hlookup hweight rfl
  simp [FontFamily.decode?, FontFamily.encode, members?, members?_mapMembers _ hnames,
    required_mapMembers, mapNumbers, hmember, Json.asString?]

theorem Color.decode?_encode {c : Color} (h : ∀ n ∈ c.numbers, n.KeptBy f) :
    Color.decode? (c.encode.mapNumbers f) = some c := by
  have hred := Json.asSingle?_ofSingle (h (.single c.red) (by simp [numbers]))
  have hgreen := Json.asSingle?_ofSingle (h (.single c.green) (by simp [numbers]))
  have hblue := Json.asSingle?_ofSingle (h (.single c.blue) (by simp [numbers]))
  simp [Color.decode?, Color.encode, members?, members?_mapMembers, required_mapMembers, mapNumbers,
    List.lookup_cons, hred, hgreen, hblue]

theorem decodeLink?_encode (url : String) :
    decodeLink? ((encodeLink url).mapNumbers f) = some url := by
  simp [decodeLink?, encodeLink, members?, members?_mapMembers, required_mapMembers, mapNumbers,
    Json.asString?]

def TextStyle.members (s : TextStyle) : List (String × Json) :=
  Json.member? "bold" .bool s.bold ++ Json.member? "italic" .bool s.italic ++
    Json.member? "link" encodeLink s.link ++
    Json.member? "weightedFontFamily" FontFamily.encode s.font ++
    Json.member? "backgroundColor" Color.encode s.background ++
    Json.member? "fontSize" encodePoints s.size

theorem TextStyle.members_sublist (s : TextStyle) :
    (s.members.map (·.1)).Sublist
      ["bold", "italic", "link", "weightedFontFamily", "backgroundColor", "fontSize"] := by
  simp only [members, List.map_append]
  exact (((((Json.member?_sublist _ _ _).append (Json.member?_sublist _ _ _)).append
    (Json.member?_sublist _ _ _)).append (Json.member?_sublist _ _ _)).append
    (Json.member?_sublist _ _ _)).append (Json.member?_sublist _ _ _)

section

variable (s : TextStyle)

theorem TextStyle.lookup_bold : s.members.lookup "bold" = s.bold.map .bool := by
  simp [members, List.lookup_append, Json.lookup_member?]

theorem TextStyle.lookup_italic : s.members.lookup "italic" = s.italic.map .bool := by
  simp [members, List.lookup_append, Json.lookup_member?]

theorem TextStyle.lookup_link : s.members.lookup "link" = s.link.map encodeLink := by
  simp [members, List.lookup_append, Json.lookup_member?]

theorem TextStyle.lookup_font :
    s.members.lookup "weightedFontFamily" = s.font.map FontFamily.encode := by
  simp [members, List.lookup_append, Json.lookup_member?]

theorem TextStyle.lookup_background :
    s.members.lookup "backgroundColor" = s.background.map Color.encode := by
  simp [members, List.lookup_append, Json.lookup_member?]

theorem TextStyle.lookup_size : s.members.lookup "fontSize" = s.size.map encodePoints := by
  simp [members, List.lookup_append, Json.lookup_member?]

end

theorem TextStyle.mem_numbers_of_font {s : TextStyle} {font : FontFamily} (hfont : font ∈ s.font)
    {n : Number} (hn : n ∈ font.numbers) : n ∈ s.numbers := by
  simp only [numbers, List.mem_append, List.mem_flatMap, Option.mem_toList]
  exact .inl (.inl ⟨font, hfont, hn⟩)

theorem TextStyle.mem_numbers_of_background {s : TextStyle} {c : Color} (hc : c ∈ s.background)
    {n : Number} (hn : n ∈ c.numbers) : n ∈ s.numbers := by
  simp only [numbers, List.mem_append, List.mem_flatMap, Option.mem_toList]
  exact .inl (.inr ⟨c, hc, hn⟩)

theorem TextStyle.mem_numbers_of_size {s : TextStyle} {x : Double} (hx : x ∈ s.size) :
    .double x ∈ s.numbers := by
  simp only [numbers, List.mem_append, List.mem_map, Option.mem_toList]
  exact .inr ⟨x, hx, rfl⟩

theorem TextStyle.decode?_encode {s : TextStyle} (h : ∀ n ∈ s.numbers, n.KeptBy f)
    (hweight : ∀ w ∈ s.weight?, w < weightBound) :
    TextStyle.decode? (s.encode.mapNumbers f) = some s := by
  have hfont : ∀ font ∈ s.font, FontFamily.decode? (font.encode.mapNumbers f) = some font := by
    intro font hfont
    refine FontFamily.decode?_encode (fun n hn => h n (mem_numbers_of_font hfont hn)) fun w hw => ?_
    exact hweight w (Option.mem_bind_iff.2 ⟨font, hfont, hw⟩)
  have hbackground : ∀ c ∈ s.background, Color.decode? (c.encode.mapNumbers f) = some c :=
    fun c hc => Color.decode?_encode fun n hn => h n (mem_numbers_of_background hc hn)
  have hsize : ∀ x ∈ s.size, decodePoints? ((encodePoints x).mapNumbers f) = some x :=
    fun x hx => decodePoints?_encode (h _ (mem_numbers_of_size hx))
  have hencode : s.encode.mapNumbers f = .object (Json.mapMembers f s.members) := rfl
  have h₁ := withDefault_optional (f := f) s.lookup_bold (fun b _ => Json.asBool?_mapNumbers b) rfl
  have h₂ := withDefault_optional (f := f) s.lookup_italic (fun b _ => Json.asBool?_mapNumbers b) rfl
  have h₃ := withDefault_optional (f := f) s.lookup_link (fun url _ => decodeLink?_encode url) rfl
  have h₄ := withDefault_optional s.lookup_font hfont rfl
  have h₅ := withDefault_optional s.lookup_background hbackground rfl
  have h₆ := withDefault_optional s.lookup_size hsize rfl
  simp [TextStyle.decode?, hencode, members?, members?_mapMembers _ s.members_sublist, h₁, h₂, h₃, h₄, h₅, h₆]

theorem decodeLocation?_encode {index : Nat} (h : (Number.natural index).KeptBy f) :
    decodeLocation? ((encodeLocation index).mapNumbers f) = some index := by
  have hindex := Json.asCount?_nat h
  simp [decodeLocation?, encodeLocation, members?, members?_mapMembers, required_mapMembers,
    mapNumbers, hindex]

theorem Range.decode?_encode {r : Range} (h : ∀ n ∈ r.numbers, n.KeptBy f) :
    Range.decode? (r.encode.mapNumbers f) = some r := by
  have hstart := Json.asCount?_nat (h (.natural r.start) (by simp [numbers]))
  have hstop := Json.asCount?_nat (h (.natural r.stop) (by simp [numbers]))
  simp [Range.decode?, Range.encode, members?, members?_mapMembers, required_mapMembers, mapNumbers,
    List.lookup_cons, hstart, hstop]

theorem decodeParagraphStyle?_encode (level : HeadingLevel) :
    decodeParagraphStyle? ((encodeParagraphStyle level).mapNumbers f) = some level := by
  have hname : HeadingLevel.ofName? (HeadingLevel.name level) = some level := by
    revert level
    decide
  simp [decodeParagraphStyle?, encodeParagraphStyle, members?, members?_mapMembers,
    required_mapMembers, mapNumbers, Json.asName?, Json.Rules.asName?, hname]

namespace Request

theorem encode_mapNumbers (r : Request) :
    r.encode.mapNumbers f = .object [(r.kindName, .object (Json.mapMembers f r.body))] := rfl

theorem decode?_encode {r : Request} (h : ∀ n ∈ r.numbers, n.KeptBy f)
    (hweight : ∀ w ∈ r.weight?, w < weightBound) : decode? (r.encode.mapNumbers f) = some r := by
  rw [encode_mapNumbers]
  cases r with
  | insertText index text =>
    have hindex := decodeLocation?_encode (h (.natural index) (by simp [numbers]))
    simp [kindName, body, decode?, decodeInsertText?, members?, members?_mapMembers,
      required_mapMembers, List.lookup_cons, mapNumbers, hindex, Json.asString?]
  | styleParagraph range level fields =>
    have hrange := Range.decode?_encode h
    have hlevel := decodeParagraphStyle?_encode (f := f) level
    simp [kindName, body, decode?, decodeStyleParagraph?, members?, members?_mapMembers,
      required_mapMembers, List.lookup_cons, mapNumbers, hrange, hlevel, Json.asString?]
  | styleText range style fields =>
    have hrange := Range.decode?_encode fun n hn => h n (List.mem_append_left _ hn)
    have hstyle := TextStyle.decode?_encode (fun n hn => h n (List.mem_append_right _ hn)) hweight
    simp [kindName, body, decode?, decodeStyleText?, members?, members?_mapMembers,
      required_mapMembers, List.lookup_cons, mapNumbers, hrange, hstyle, Json.asString?]
  | insertImage index uri size =>
    have hindex := decodeLocation?_encode (h (.natural index) (by simp [numbers]))
    have hsize : ∀ s ∈ size, Size.decode? (s.encode.mapNumbers f) = some s := by
      refine fun s hs => Size.decode?_encode fun n hn => h n (List.mem_cons_of_mem _ ?_)
      exact List.mem_flatMap.2 ⟨s, Option.mem_toList.2 hs, hn⟩
    have hnames : ((insertImage index uri size).body.map (·.1)).Sublist
        ["location", "uri", "objectSize"] :=
      (List.Sublist.refl ["location", "uri"]).append (Json.member?_sublist _ _ _)
    have hlookup : (insertImage index uri size).body.lookup "objectSize" = size.map Size.encode := by
      simp [body, List.lookup_cons, Json.lookup_member?]
    have hlocation : (insertImage index uri size).body.lookup "location" =
        some (encodeLocation index) := rfl
    have huri : (insertImage index uri size).body.lookup "uri" = some (.string uri) := by
      simp [body, List.lookup_cons]
    have hmember := withDefault_optional hlookup hsize rfl
    simp [kindName, decode?, decodeInsertImage?, members?, members?_mapMembers _ hnames,
      required_mapMembers, hlocation, huri, hmember, mapNumbers, hindex, Json.asString?]
  | insertTable index rows columns =>
    have hindex := decodeLocation?_encode (h (.natural index) (by simp [numbers]))
    have hrows := Json.asCount?_nat (h (.natural rows) (by simp [numbers]))
    have hcolumns := Json.asCount?_nat (h (.natural columns) (by simp [numbers]))
    simp [kindName, body, decode?, decodeInsertTable?, members?, members?_mapMembers,
      required_mapMembers, List.lookup_cons, hindex, hrows, hcolumns]
  | delete range =>
    have hrange := Range.decode?_encode h
    simp [kindName, body, decode?, decodeDelete?, members?, members?_mapMembers,
      required_mapMembers, hrange]

end Request

end

section

theorem isLegible_encodePoints {x : Double} (h : (Number.double x).Survives) :
    (encodePoints x).isLegible = true := by
  simp [encodePoints, isLegible, membersLegible, Json.isLegible_ofDouble h]

theorem isLegible_encodeLink (url : String) : (encodeLink url).isLegible = true := rfl

theorem Size.isLegible_encode {s : Size} (h : ∀ n ∈ s.numbers, n.Survives) :
    s.encode.isLegible = true := by
  have hheight := isLegible_encodePoints (h (.double s.height) (by simp [numbers]))
  have hwidth := isLegible_encodePoints (h (.double s.width) (by simp [numbers]))
  simp [Size.encode, isLegible, membersLegible, hheight, hwidth]

theorem FontFamily.isLegible_encode {font : FontFamily} (h : ∀ n ∈ font.numbers, n.Survives) :
    font.encode.isLegible = true := by
  have hweight := Json.membersLegible_member? (o := font.weight) "weight" fun w hw =>
    Json.isLegible_nat (h (.natural w) (by simpa [numbers] using hw))
  simp [FontFamily.encode, isLegible, membersLegible, hweight]

theorem Color.isLegible_encode {c : Color} (h : ∀ n ∈ c.numbers, n.Survives) :
    c.encode.isLegible = true := by
  have hred := Json.isLegible_ofSingle (h (.single c.red) (by simp [numbers]))
  have hgreen := Json.isLegible_ofSingle (h (.single c.green) (by simp [numbers]))
  have hblue := Json.isLegible_ofSingle (h (.single c.blue) (by simp [numbers]))
  simp [Color.encode, isLegible, membersLegible, hred, hgreen, hblue]

theorem TextStyle.isLegible_encode {s : TextStyle} (h : ∀ n ∈ s.numbers, n.Survives) :
    s.encode.isLegible = true := by
  have hbold := Json.membersLegible_member? (o := s.bold) "bold" fun b _ => Json.isLegible_bool b
  have hitalic := Json.membersLegible_member? (o := s.italic) "italic" fun b _ => Json.isLegible_bool b
  have hlink := Json.membersLegible_member? (o := s.link) "link" fun url _ => isLegible_encodeLink url
  have hfont := Json.membersLegible_member? "weightedFontFamily" fun font hfont =>
    FontFamily.isLegible_encode fun n hn => h n (TextStyle.mem_numbers_of_font hfont hn)
  have hbackground := Json.membersLegible_member? "backgroundColor" fun c hc =>
    Color.isLegible_encode fun n hn => h n (TextStyle.mem_numbers_of_background hc hn)
  have hsize := Json.membersLegible_member? "fontSize" fun x hx =>
    isLegible_encodePoints (h _ (TextStyle.mem_numbers_of_size hx))
  simp [TextStyle.encode, isLegible, Json.membersLegible_append, hbold, hitalic, hlink, hfont,
    hbackground, hsize]

theorem isLegible_encodeLocation {index : Nat} (h : (Number.natural index).Survives) :
    (encodeLocation index).isLegible = true := by
  simp [encodeLocation, isLegible, membersLegible, Json.isLegible_nat h]

theorem Range.isLegible_encode {r : Range} (h : ∀ n ∈ r.numbers, n.Survives) :
    r.encode.isLegible = true := by
  have hstart := Json.isLegible_nat (h (.natural r.start) (by simp [numbers]))
  have hstop := Json.isLegible_nat (h (.natural r.stop) (by simp [numbers]))
  simp [Range.encode, isLegible, membersLegible, hstart, hstop]

theorem Request.isLegible_encode {r : Request} (h : ∀ n ∈ r.numbers, n.Survives) :
    r.encode.isLegible = true := by
  have hbody : membersLegible r.body = true := by
    cases r with
    | insertText index text =>
      have hindex := isLegible_encodeLocation (h (.natural index) (by simp [numbers]))
      simp [body, membersLegible, hindex, isLegible]
    | styleParagraph range level fields =>
      have hrange := Range.isLegible_encode h
      simp [body, membersLegible, hrange, isLegible, encodeParagraphStyle]
    | styleText range style fields =>
      have hrange := Range.isLegible_encode fun n hn => h n (List.mem_append_left _ hn)
      have hstyle := TextStyle.isLegible_encode fun n hn => h n (List.mem_append_right _ hn)
      simp [body, membersLegible, hrange, hstyle, isLegible]
    | insertImage index uri size =>
      have hindex := isLegible_encodeLocation (h (.natural index) (by simp [numbers]))
      have hsize := Json.membersLegible_member? (o := size) "objectSize" fun s hs =>
        Size.isLegible_encode fun n hn => h n (List.mem_cons_of_mem _
          (List.mem_flatMap.2 ⟨s, Option.mem_toList.2 hs, hn⟩))
      simp [body, membersLegible, hindex, hsize, isLegible]
    | insertTable index rows columns =>
      have hindex := isLegible_encodeLocation (h (.natural index) (by simp [numbers]))
      have hrows := Json.isLegible_nat (h (.natural rows) (by simp [numbers]))
      have hcolumns := Json.isLegible_nat (h (.natural columns) (by simp [numbers]))
      simp [body, membersLegible, hindex, hrows, hcolumns]
    | delete range =>
      have hrange := Range.isLegible_encode h
      simp [body, membersLegible, hrange]
  simp [encode, isLegible, membersLegible, hbody]

end

/-- Whether the numbers of a request are in the range of their types and are found again in the text
in which the request is sent. -/
structure Request.IsSendable (r : Request) : Prop where
  numbers : ∀ n ∈ r.numbers, n.Survives
  weight : ∀ w ∈ r.weight?, w < weightBound

namespace Request

def optionalMembers : Request → List (List String × Bool)
  | .styleText _ s _ =>
    [(["updateTextStyle", "textStyle", "bold"], s.bold.isSome),
      (["updateTextStyle", "textStyle", "italic"], s.italic.isSome),
      (["updateTextStyle", "textStyle", "link"], s.link.isSome),
      (["updateTextStyle", "textStyle", "weightedFontFamily"], s.font.isSome),
      (["updateTextStyle", "textStyle", "weightedFontFamily", "weight"], s.weight?.isSome),
      (["updateTextStyle", "textStyle", "backgroundColor"], s.background.isSome),
      (["updateTextStyle", "textStyle", "fontSize"], s.size.isSome)]
  | .insertImage _ _ size => [(["insertInlineImage", "objectSize"], size.isSome)]
  | _ => []

theorem at?_textStyle (range : Range) (style : TextStyle) (fields : String) (path : List String) :
    (styleText range style fields).encode.at? ("updateTextStyle" :: "textStyle" :: path) =
      (Json.object style.members).at? path := by
  simp [encode, kindName, body, Json.at?, List.lookup_cons, TextStyle.encode, TextStyle.members]

theorem isSome_at?_optionalMembers (r : Request) {o : List String × Bool} (ho : o ∈ r.optionalMembers) :
    (r.encode.at? o.1).isSome = o.2 := by
  cases r with
  | styleText range style fields =>
    have hweight : ((style.font.map FontFamily.encode).bind (Json.at? ["weight"])).isSome =
        style.weight?.isSome := by
      cases hfont : style.font with
      | none => simp [TextStyle.weight?, hfont]
      | some font =>
        simp [TextStyle.weight?, hfont, FontFamily.encode, Json.at?, List.lookup_cons, Json.lookup_member?]
    simp only [optionalMembers, List.mem_cons, List.not_mem_nil, or_false] at ho
    rcases ho with rfl | rfl | rfl | rfl | rfl | rfl | rfl
    all_goals
      rw [at?_textStyle, Json.at?]
      simp [TextStyle.lookup_bold, TextStyle.lookup_italic, TextStyle.lookup_link, TextStyle.lookup_font,
        TextStyle.lookup_background, TextStyle.lookup_size, hweight, Json.at?]
  | insertImage index uri size =>
    simp only [optionalMembers, List.mem_singleton] at ho
    subst ho
    simp [encode, kindName, body, Json.at?, List.lookup_cons, Json.lookup_member?]
  | insertText | styleParagraph | insertTable | delete => cases ho

end Request

theorem map_fst_member? {α : Type} (name : String) (encode : α → Json) (o : Option α) :
    (Json.member? name encode o).map (·.1) = if o.isSome then [name] else [] := by
  cases o <;> rfl

theorem TextStyle.fieldNames_eq (s : TextStyle) : s.fieldNames = s.members.map (·.1) := by
  simp only [fieldNames, members, List.map_append, map_fst_member?]

theorem TextStyle.comma_not_mem {s : TextStyle} {m : String × Json} (hm : m ∈ s.members) :
    ',' ∉ m.1.toList := by
  have hname := s.members_sublist.subset (List.mem_map_of_mem hm)
  simp only [List.mem_cons, List.not_mem_nil, or_false] at hname
  rcases hname with h | h | h | h | h | h <;> rw [h] <;> decide

/-- What is sent says what is meant. A batch is decoded from its encoding and from its text, on its own
or as the body in which it is sent; a request is an object with one member; an optional member is there
exactly if it is set; and the mask of a text style lists the members of the style. -/
theorem requests_roundTrip :
    (∀ rs : List Request, (∀ r ∈ rs, r.IsSendable) →
      decodeRequests? (.array (rs.map Request.encode)) = some rs ∧
      (Json.read? (Json.array (rs.map Request.encode)).compactText).bind decodeRequests? = some rs ∧
      ∃ j, Json.read? (encodeBatch rs).compactText = some (.object [("requests", j)]) ∧
        decodeRequests? j = some rs) ∧
    (∀ r : Request, ∃ name body, r.encode = .object [(name, .object body)] ∧
      ∀ o ∈ r.optionalMembers, (r.encode.at? o.1).isSome = o.2) ∧
    ∀ (range : Range) (style : TextStyle), ∃ ms mask,
      Request.text range style = .styleText range style mask ∧
      (Request.text range style).encode.at? ["updateTextStyle", "textStyle"] = some (.object ms) ∧
      (Request.text range style).encode.at? ["updateTextStyle", "fields"] = some (.string mask) ∧
      mask = ",".intercalate (ms.map (·.1)) ∧ ∀ m ∈ ms, ',' ∉ m.1.toList := by
  refine ⟨fun rs h => ?_, fun r => ⟨r.kindName, r.body, rfl, fun o ho => r.isSome_at?_optionalMembers ho⟩,
    fun range style => ⟨style.members, style.fields, rfl, ?_, ?_, ?_, fun m hm => TextStyle.comma_not_mem hm⟩⟩
  · have hvalue := Json.asList?_mapNumbers (f := id) fun r hr =>
      Request.decode?_encode (fun n hn => ((h r hr).numbers n hn).keptBy_id) (h r hr).weight
    have hagain := Json.asList?_mapNumbers (f := Number.again) fun r hr =>
      Request.decode?_encode (fun n hn => ((h r hr).numbers n hn).keptBy_again) (h r hr).weight
    rw [Json.mapNumbers_id] at hvalue
    have hlegible : (Json.array (rs.map Request.encode)).isLegible = true := by
      rw [isLegible, Json.allLegible_iff, List.forall_mem_map]
      exact fun r hr => Request.isLegible_encode (h r hr).numbers
    have hbody : (encodeBatch rs).isLegible = true := by
      rw [encodeBatch, isLegible, membersLegible, hlegible]
      rfl
    refine ⟨hvalue, ?_, _, ?_, hagain⟩
    · rw [Json.read?_compactText hlegible]
      exact hagain
    · rw [Json.read?_compactText hbody]
      rfl
  · rw [Request.text, Request.at?_textStyle]
    rfl
  · simp [Request.text, Request.encode, Request.kindName, Request.body, Json.at?, List.lookup_cons]
  · rw [TextStyle.fields, TextStyle.fieldNames_eq]

def oneOfEach : List Request :=
  [.insertText 1 "Title\n",
    .heading ⟨1, 7⟩ (Fin.last 5),
    .text ⟨1, 6⟩ ⟨some true, none, some "https://e.org", some ⟨codeFont, some 700⟩, some codeBackground,
      some (.ofNat 24)⟩,
    .insertImage 7 "https://e.org/a.png" (some ⟨.ofNat 120, .ofNat 200⟩),
    .insertTable 9 2 3,
    .delete ⟨2, 4⟩]

theorem requests_roundTrip_oneOfEach :
    (Json.read? (Json.array (oneOfEach.map Request.encode)).compactText).bind decodeRequests? =
      some oneOfEach := by
  refine (requests_roundTrip.1 oneOfEach fun r hr => ⟨?_, ?_⟩).2.1
  · revert r
    decide +kernel
  · revert r
    decide +kernel

end Edit

end Folio
