import TraceView.Html.Piece

/-!
# Scripts of a page

Each script element carries the token of its page. Lines are joined by newlines.
-/

namespace TraceView.Page

open TraceView.Html (Piece)

def joinLines (lines : List String) : String :=
  String.intercalate "\n" lines

def toggleScript : List Piece :=
  [ .markup "<script nonce=\"", .token,
    .markup (joinLines [
      "\">",
      "(function() \x7b",
      "    const host = typeof acquireVsCodeApi === \"function\" ? acquireVsCodeApi() : window.parent;",
      "    const post = (message) => \x7b if (host && host.postMessage) host.postMessage(message, \"*\"); \x7d;",
      "    const cbSource = document.getElementById(\"cb-show-source\");",
      "    const cbDebug = document.getElementById(\"cb-show-debug\");",
      "    if (cbSource) \x7b",
      "        cbSource.addEventListener(\"change\", (e) => \x7b",
      "            const checked = e.target.checked;",
      "            document.querySelectorAll(\".code-col\").forEach(el => el.style.display = checked ? \"table-cell\" : \"none\");",
      "            post(\x7b command: \"toggleSource\", value: checked \x7d);",
      "        \x7d);",
      "    \x7d",
      "    if (cbDebug) \x7b",
      "        cbDebug.addEventListener(\"change\", (e) => \x7b",
      "            const checked = e.target.checked;",
      "            const debugDiv = document.getElementById(\"debug-output\");",
      "            if (debugDiv) debugDiv.style.display = checked ? \"block\" : \"none\";",
      "            post(\x7b command: \"toggleDebug\", value: checked \x7d);",
      "        \x7d);",
      "    \x7d",
      "\x7d)();",
      "</script>"]) ]

def rowHeight : Nat := 19

def scrollScript (line : Nat) : List Piece :=
  let target := "scroll(" ++ toString line ++ ")"
  [ .markup "<script nonce=\"", .token,
    .markup (joinLines [
      "\">",
      "(function() \x7b",
      "    const scroll = (line) => window.scrollTo(0, " ++ toString rowHeight ++ " * line);",
      "    window.addEventListener(\"message\", event => \x7b",
      "        if (event.data && typeof event.data.line === \"number\") scroll(event.data.line);",
      "    \x7d);",
      "    if (document.readyState === \"loading\") \x7b",
      "        window.addEventListener(\"DOMContentLoaded\", () => " ++ target ++ ", \x7b once: true \x7d);",
      "    \x7d else \x7b",
      "        " ++ target ++ ";",
      "    \x7d",
      "\x7d)();",
      "</script>"]) ]

def installPrompt (message : String) : List Piece :=
  [ .markup "<div class=\"install-missing\"><p>", .text message,
    .markup (joinLines [
      "</p>",
      "<button id=\"install-tracer\" style=\"margin-top:8px;padding:6px 12px;\">Install tracer</button>",
      "<script nonce=\""]),
    .token,
    .markup (joinLines [
      "\">",
      "(function() \x7b",
      "    const host = typeof acquireVsCodeApi === \"function\" ? acquireVsCodeApi() : window.parent;",
      "    const btn = document.getElementById(\"install-tracer\");",
      "    if (btn && host && host.postMessage) \x7b",
      "        btn.addEventListener(\"click\", () => host.postMessage(\x7b command: \"install\" \x7d, \"*\"));",
      "    \x7d",
      "\x7d)();",
      "</script></div>"]) ]

end TraceView.Page
