/-
The tools by name.
-/

import FixtureRunner.Tool.Calculation
import FixtureRunner.Tool.Calls
import FixtureRunner.Tool.Characters
import FixtureRunner.Tool.Columns
import FixtureRunner.Tool.Difference
import FixtureRunner.Tool.Listing
import FixtureRunner.Tool.Order
import FixtureRunner.Tool.Search
import FixtureRunner.Tool.Writing

namespace FixtureRunner.Tool

def catalog : List (String × Program) :=
  [("[", bracketTool), ("arch", answerTool "x86_64"), ("base64", alphabetTool),
    ("basename", baseNameTool), ("cat", concatenateTool), ("chmod", modeTool), ("cmp", compareTool),
    ("comm", sharedTool), ("cp", copyTool), ("cut", cutTool), ("dd", blockTool),
    ("diff", differenceTool), ("dirname", folderNameTool), ("echo", echoTool),
    ("egrep", searchToolAs 'E'), ("expand", expandTool), ("expr", calculationTool),
    ("false", fun _ => return 1), ("fgrep", searchToolAs 'F'), ("fold", foldTool),
    ("grep", searchTool), ("head", headTool), ("id", identityTool), ("install", installTool),
    ("link", plainLinkTool), ("ln", linkTool), ("ls", listTool), ("mkdir", makeFolderTool),
    ("mktemp", temporaryTool), ("mv", moveTool), ("nl", numberTool), ("od", dumpTool),
    ("paste", pasteTool), ("perl", callTool), ("printenv", variableTool), ("printf", printfTool),
    ("pwd", workingFolderTool), ("readlink", linkTargetTool), ("realpath", realPathTool),
    ("rev", reversedTool), ("rm", removeTool), ("rmdir", removeFolderTool),
    ("seq", sequenceTool), ("sleep", sleepTool), ("sort", sortTool), ("split", splitTool),
    ("stat", factTool), ("sync", fun _ => return 0), ("tac", backwardsTool), ("tail", tailTool),
    ("tee", duplicateTool), ("test", conditionTool), ("touch", touchTool), ("tr", characterTool),
    ("true", fun _ => return 0), ("truncate", truncateTool), ("tty", fun _ => output "not a tty\n" 1),
    ("uname", answerTool "Linux"), ("unexpand", unexpandTool), ("uniq", repeatedTool),
    ("unlink", unlinkTool), ("wc", countTool), ("whoami", answerTool "root"), ("yes", repeatTool)]

end FixtureRunner.Tool
