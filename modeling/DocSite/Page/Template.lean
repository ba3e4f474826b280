/-
The frames of pages.

A page is a fixed frame with a few places for the texts of the project. Whatever goes into a place is
markup already.
-/
import DocSite.Text.Basic

namespace DocSite

def stylesheetRules : List (String × List String) :=
  [("body",
      ["margin: 0;", "font-family: system-ui, sans-serif;", "background: #0f172a;",
       "color: #e2e8f0;"]),
    ("header", ["padding: 1.5rem 2rem;", "border-bottom: 1px solid #334155;"]),
    ("header a", ["color: #94a3b8;", "text-decoration: none;"]),
    ("main", ["max-width: 960px;", "margin: 0 auto;", "padding: 2rem;"]),
    ("h1", ["margin: 0.25rem 0;", "color: #f8fafc;"]),
    ("h3", ["color: #22d3ee;"]),
    ("a", ["color: #60a5fa;"]),
    ("section",
      ["background: #1e293b;", "border: 1px solid #334155;", "border-radius: 0.75rem;",
       "padding: 1.5rem;", "margin-bottom: 1.5rem;"]),
    (".entry",
      ["border: 1px solid #334155;", "border-radius: 0.5rem;", "padding: 1rem;",
       "margin-bottom: 1rem;"]),
    (".kind",
      ["color: #64748b;", "font-size: 0.8rem;", "text-transform: uppercase;",
       "letter-spacing: 0.05em;", "margin-right: 0.5rem;"]),
    (".signature, .declaration",
      ["font-family: ui-monospace, monospace;", "font-size: 0.9rem;", "background: #0b1120;",
       "padding: 0.5rem 0.75rem;", "border-radius: 0.375rem;"]),
    (".return-type", ["color: #f87171;"]),
    (".name", ["color: #60a5fa;", "font-weight: 600;"]),
    (".params", ["color: #94a3b8;"]),
    (".value", ["color: #4ade80;"]),
    (".doc",
      ["border-left: 2px solid #ef444480;", "padding-left: 0.75rem;", "margin-top: 0.5rem;"]),
    (".ddoc-section", ["color: #e2e8f0;", "font-weight: 700;", "margin: 0.75rem 0 0.25rem;"]),
    (".param-name",
      ["font-family: ui-monospace, monospace;", "color: #93c5fd;", "font-weight: 600;"]),
    ("pre.example",
      ["background: #0b1120;", "padding: 0.75rem;", "border-radius: 0.375rem;", "overflow-x: auto;"]),
    (".private", ["opacity: 0.6;"]),
    (".license", ["color: #94a3b8;", "font-size: 0.85rem;"]),
    ("#search",
      ["width: 100%;", "padding: 0.5rem;", "border-radius: 0.375rem;", "border: 1px solid #334155;",
       "background: #0b1120;", "color: #e2e8f0;"]),
    ("#search-results li span", ["color: #64748b;", "margin-left: 0.5rem;", "font-size: 0.8rem;"])]

def stylesheet : Text :=
  '\n' :: stylesheetRules.flatMap fun rule =>
    "    ".toList ++ rule.1.toList ++ [' ', '\x7b', ' '] ++
      Text.join [' '] (rule.2.map String.toList) ++ [' ', '\x7d', '\n']

def searchClient : List String :=
  ["<script>",
    "(function () \x7b",
    "  var input = document.getElementById(\"search\");",
    "  var results = document.getElementById(\"search-results\");",
    "  input.addEventListener(\"input\", function () \x7b",
    "    var query = input.value.trim().toLowerCase();",
    "    results.innerHTML = \"\";",
    "    if (!query) \x7b return; \x7d",
    "    searchIndex.filter(function (item) \x7b",
    "      return item.name.toLowerCase().indexOf(query) !== -1;",
    "    \x7d).slice(0, 50).forEach(function (item) \x7b",
    "      var li = document.createElement(\"li\");",
    "      var a = document.createElement(\"a\");",
    "      a.href = item.link;",
    "      a.textContent = item.parent ? item.parent + \".\" + item.name : item.name;",
    "      var kind = document.createElement(\"span\");",
    "      kind.textContent = item.type;",
    "      li.appendChild(a);",
    "      li.appendChild(kind);",
    "      results.appendChild(li);",
    "    \x7d);",
    "  \x7d);",
    "\x7d)();",
    "</script>",
    "</body>",
    "</html>"]

def closedLines (lines : List Text) : Text :=
  lines.flatMap fun line => line ++ ['\n']

/-- The lines that every page begins with, up to its stylesheet. -/
def headLines (title : Text) : List Text :=
  ["<!DOCTYPE html>".toList,
    "<html lang=\"en\">".toList,
    "<head>".toList,
    "<meta charset=\"utf-8\">".toList,
    "<meta name=\"viewport\" content=\"width=device-width, initial-scale=1\">".toList,
    "<title>".toList ++ title ++ "</title>".toList,
    "<style>".toList ++ stylesheet ++ "</style>".toList]

def indexFrame (projectName license modules : Text) : Text :=
  closedLines
      (headLines (projectName ++ " Documentation".toList) ++
        ["<script src=\"search_index.js\"></script>".toList,
          "</head>".toList,
          "<body>".toList,
          "<header>".toList,
          "<h1>".toList ++ projectName ++ "</h1>".toList,
          "<div class=\"license\">".toList ++ license ++ "</div>".toList,
          "</header>".toList,
          "<main>".toList,
          "<section>".toList,
          ("<input id=\"search\" type=\"search\"" ++
            " placeholder=\"Search modules, classes and functions...\"" ++
            " autocomplete=\"off\">").toList,
          "<ul id=\"search-results\"></ul>".toList,
          "</section>".toList,
          "<section>".toList,
          "<h2>Modules</h2>".toList,
          "<ul class=\"modules\">".toList]) ++
    modules ++
    closedLines
      (["</ul>".toList, "</section>".toList, "</main>".toList] ++ searchClient.map String.toList)

def moduleFrame (moduleName projectName content : Text) : Text :=
  closedLines
      (headLines (moduleName ++ " - ".toList ++ projectName) ++
        ["</head>".toList,
          "<body>".toList,
          "<header>".toList,
          "<a href=\"index.html\">".toList ++ projectName ++ "</a>".toList,
          "<h1>".toList ++ moduleName ++ "</h1>".toList,
          "</header>".toList,
          "<main>".toList]) ++
    content ++
    closedLines ["</main>".toList, "</body>".toList, "</html>".toList]

end DocSite
