import Folio.Markdown.Entity

set_option autoImplicit false

namespace Folio.Markdown

def blockElements : List String := [
  "address", "article", "aside", "base", "basefont", "blockquote", "body", "caption", "center",
  "col", "colgroup", "dd", "details", "dialog", "dir", "div", "dl", "dt", "fieldset",
  "figcaption", "figure", "footer", "form", "frame", "frameset", "h1", "h2", "h3", "h4", "h5",
  "h6", "head", "header", "hr", "html", "iframe", "legend", "li", "link", "main", "menu",
  "menuitem", "nav", "noframes", "ol", "optgroup", "option", "p", "param", "search", "section",
  "summary", "table", "tbody", "td", "tfoot", "th", "thead", "title", "tr", "track", "ul"]

def verbatimElements : List String := ["pre", "style", "script", "textarea"]

def lowerAscii (cs : List Char) : List Char := cs.map Char.toLower

def startsWith (start cs : List Char) : Bool := cs.take start.length == start

def verbatimEnd? (cs : List Char) : Option String :=
  let opens (name : String) : Bool :=
    lowerAscii (cs.take name.length) == name.toList &&
      match cs.drop name.length with
      | [] => true
      | c :: _ => isSpace c || c == '>'
  match verbatimElements.find? opens with
  | some name => some ("</" ++ name ++ ">")
  | none =>
    if startsWith "!--".toList cs then some "-->"
    else if startsWith ['?'] cs then some "?>"
    else if startsWith "![CDATA[".toList cs then some "]]>"
    else match cs with
      | '!' :: c :: _ => if isLetter c then some ">" else none
      | _ => none

def opensBlockElement (cs : List Char) : Bool :=
  let cs := match cs with
    | '/' :: rest => rest
    | _ => cs
  let name := cs.takeWhile isAlphanumeric
  blockElements.any (fun e => e.toList == lowerAscii name) &&
    match cs.drop name.length with
    | [] => true
    | c :: rest =>
      c == ' ' || c == '\t' || isLineEnd c || c == '>' || (c == '/' && rest.head? == some '>')

/-- The length of the blanks, line ends among them only if `multiline`; none if nothing follows or a
line end is refused. -/
def tagBlanks? (multiline : Bool) (used : Nat) : List Char → Option Nat
  | [] => none
  | c :: cs =>
    if isLineEnd c then (if multiline then tagBlanks? multiline (used + 1) cs else none)
    else if isGap c then tagBlanks? multiline (used + 1) cs
    else some used

def attributeNameLength : List Char → Nat
  | c :: cs =>
    if isLetter c || c == '_' || c == ':' then
      countWhile (fun c => isAlphanumeric c || c == '_' || c == '.' || c == ':' || c == '-') cs + 1
    else 0
  | [] => 0

def quotedLength? (multiline : Bool) (quote : Char) (used : Nat) : List Char → Option Nat
  | [] => none
  | c :: cs =>
    if c == quote then some (used + 1)
    else if isLineEnd c && !multiline then none
    else quotedLength? multiline quote (used + 1) cs

def attributeValueLength? (multiline : Bool) : List Char → Option Nat
  | [] => none
  | c :: cs =>
    if c == '"' || c == '\'' then quotedLength? multiline c 1 cs
    else
      let plain (c : Char) : Bool := !(" '\"=<>\x60\n\r".toList.contains c)
      if plain c then some (countWhile plain (c :: cs)) else none

def attributeLength? (multiline : Bool) (cs : List Char) : Option Nat :=
  match attributeNameLength cs with
  | 0 => none
  | name =>
    match tagBlanks? multiline 0 (cs.drop name) with
    | none => none
    | some gap =>
      if cs[name + gap]? == some '=' then
        match tagBlanks? multiline 0 (cs.drop (name + gap + 1)) with
        | none => none
        | some gap' =>
          let start := name + gap + 1 + gap'
          (attributeValueLength? multiline (cs.drop start)).map (start + ·)
      else some name

def attributesLength? (multiline : Bool) : Nat → Nat → List Char → Option Nat
  | 0, _, _ => none
  | fuel + 1, used, cs =>
    match tagBlanks? multiline 0 cs with
    | none => none
    | some gap =>
      let rest := cs.drop gap
      match rest with
      | '>' :: _ => some (used + gap + 1)
      | '/' :: '>' :: _ => some (used + gap + 2)
      | '/' :: _ => none
      | _ =>
        if gap == 0 then none
        else match attributeLength? multiline rest with
          | none => none
          | some n => attributesLength? multiline fuel (used + gap + n) (rest.drop n)

def tagLength? (multiline : Bool) : List Char → Option Nat
  | '<' :: '/' :: cs =>
    let name := countWhile isLetter cs
    if name == 0 then none
    else
      let n := countWhile (fun c => isAlphanumeric c || c == '-') cs
      let gap := gapLength (cs.drop n)
      if cs[n + gap]? == some '>' then some (2 + n + gap + 1) else none
  | '<' :: cs =>
    let name := countWhile isLetter cs
    if name == 0 then none
    else
      let n := countWhile (fun c => isAlphanumeric c || c == '-') cs
      attributesLength? multiline (cs.length + 1) (1 + n) (cs.drop n)
  | _ => none

def isTagLine (cs : List Char) : Bool :=
  match tagLength? false cs with
  | some n => isBlankLine (cs.drop n)
  | none => false

def lengthThrough? (stop : List Char) : List Char → Option Nat
  | [] => none
  | c :: cs =>
    if startsWith stop (c :: cs) then some stop.length
    else (lengthThrough? stop cs).map (· + 1)

def inlineHtmlLength? (cs : List Char) : Option Nat :=
  match cs with
  | '<' :: '!' :: '-' :: '-' :: rest =>
    match rest with
    | '>' :: _ => some 5
    | '-' :: '>' :: _ => some 6
    | _ => (lengthThrough? "-->".toList rest).map (4 + ·)
  | '<' :: '!' :: rest =>
    if startsWith "[CDATA[".toList rest then (lengthThrough? "]]>".toList (rest.drop 7)).map (9 + ·)
    else match rest with
      | c :: _ => if isLetter c then (lengthThrough? ['>'] rest).map (2 + ·) else none
      | [] => none
  | '<' :: '?' :: rest => (lengthThrough? "?>".toList rest).map (2 + ·)
  | _ => tagLength? true cs

end Folio.Markdown
