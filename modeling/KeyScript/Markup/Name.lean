import KeyScript.Text.Bytes

/-!
# Known names of markup

The names that a selector may ask for: those of elements, of attributes and of events, which share
one table.

## Main definitions

- `elementNames`, `attributeNames`, `eventNames` — the parts of the table
- `isKnownName` — whether a name is in the table
-/

namespace KeyScript.Markup

/-- The names of elements. -/
def elementNames : List Bytes :=
  (["a", "abbr", "acronym", "address", "annotation", "annotation-xml", "applet", "area",
   "article", "aside", "audio", "b", "base", "basefont", "bdi", "bdo", "bgsound", "big", "blink",
   "blockquote", "body", "br", "button", "canvas", "caption", "center", "cite", "code", "col",
   "colgroup", "command", "data", "datalist", "dd", "del", "desc", "details", "dfn", "dialog",
   "div", "dl", "dt", "em", "embed", "fieldset", "figcaption", "figure", "font", "footer",
   "foreignObject", "foreignobject", "form", "frame", "frameset", "h1", "h2", "h3", "h4", "h5",
   "h6", "head", "header", "hgroup", "hr", "html", "i", "iframe", "image", "img", "input", "ins",
   "isindex", "kbd", "keygen", "label", "legend", "li", "link", "listing", "main", "malignmark",
   "map", "mark", "marquee", "math", "menu", "menuitem", "meta", "meter", "mglyph", "mi", "mn",
   "mo", "ms", "mtext", "nav", "nobr", "noembed", "noframes", "noscript", "object", "ol",
   "optgroup", "option", "output", "p", "param", "picture", "plaintext", "pre", "progress", "q",
   "rb", "rp", "rt", "rtc", "ruby", "s", "samp", "script", "search", "section", "select", "slot",
   "small", "source", "spacer", "span", "strike", "strong", "style", "sub", "summary", "sup",
   "svg", "table", "tbody", "td", "template", "textarea", "tfoot", "th", "thead", "time",
   "title", "tr", "track", "tt", "u", "ul", "var", "video", "wbr", "xmp"] : List String).map
    Bytes.ofString

/-- The names of attributes that are not names of elements. -/
def attributeNames : List Bytes :=
  (["accept", "accept-charset", "accesskey", "action", "align", "allowfullscreen",
   "allowpaymentrequest", "allowusermedia", "alt", "as", "async", "autocomplete", "autofocus",
   "autoplay", "challenge", "charset", "checked", "class", "color", "cols", "colspan", "content",
   "contenteditable", "contextmenu", "controls", "coords", "crossorigin", "datetime", "default",
   "defer", "dir", "dirname", "disabled", "download", "draggable", "dropzone", "enctype", "face",
   "for", "formaction", "formenctype", "formmethod", "formnovalidate", "formtarget", "headers",
   "height", "hidden", "high", "href", "hreflang", "http-equiv", "icon", "id", "inputmode",
   "integrity", "is", "ismap", "itemid", "itemprop", "itemref", "itemscope", "itemtype",
   "keytype", "kind", "lang", "list", "loop", "low", "manifest", "max", "maxlength", "media",
   "mediagroup", "method", "min", "minlength", "multiple", "muted", "name", "nomodule", "nonce",
   "novalidate", "open", "optimum", "pattern", "ping", "placeholder", "playsinline", "poster",
   "preload", "prompt", "public", "radiogroup", "readonly", "referrerpolicy", "rel", "required",
   "reversed", "rows", "rowspan", "sandbox", "scope", "scoped", "seamless", "selected", "shape",
   "size", "sizes", "sortable", "sorted", "spellcheck", "src", "srcdoc", "srclang", "srcset",
   "start", "step", "system", "tabindex", "target", "translate", "type", "typemustmatch",
   "updateviacache", "usemap", "value", "width", "workertype", "wrap"] : List String).map
    Bytes.ofString

/-- The names of attributes that hold what is done at an event. -/
def eventNames : List Bytes :=
  (["onabort", "onafterprint", "onautocomplete", "onautocompleteerror", "onauxclick",
   "onbeforeprint", "onbeforeunload", "onblur", "oncancel", "oncanplay", "oncanplaythrough",
   "onchange", "onclick", "onclose", "oncontextmenu", "oncopy", "oncuechange", "oncut",
   "ondblclick", "ondrag", "ondragend", "ondragenter", "ondragexit", "ondragleave", "ondragover",
   "ondragstart", "ondrop", "ondurationchange", "onemptied", "onended", "onerror", "onfocus",
   "onhashchange", "oninput", "oninvalid", "onkeydown", "onkeypress", "onkeyup",
   "onlanguagechange", "onload", "onloadeddata", "onloadedmetadata", "onloadend", "onloadstart",
   "onmessage", "onmessageerror", "onmousedown", "onmouseenter", "onmouseleave", "onmousemove",
   "onmouseout", "onmouseover", "onmouseup", "onmousewheel", "onoffline", "ononline",
   "onpagehide", "onpageshow", "onpaste", "onpause", "onplay", "onplaying", "onpopstate",
   "onprogress", "onratechange", "onrejectionhandled", "onreset", "onresize", "onscroll",
   "onsecuritypolicyviolation", "onseeked", "onseeking", "onselect", "onshow", "onsort",
   "onstalled", "onstorage", "onsubmit", "onsuspend", "ontimeupdate", "ontoggle",
   "onunhandledrejection", "onunload", "onvolumechange", "onwaiting", "onwheel"] : List String).map
    Bytes.ofString

/-- Whether a name is the name of an element or an attribute. -/
def isKnownName (name : Bytes) : Bool :=
  elementNames.contains name || attributeNames.contains name || eventNames.contains name

end KeyScript.Markup
