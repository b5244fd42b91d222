import TangleGateway.Text.Charset.Plane

/-! # Page 932 of Windows

The codes that differ from those of JIS X 0208.
-/

namespace TangleGateway.Plane

/-- Symbols that are read differently. -/
def cp932Symbols : List ((Nat × Nat) × Char) := [
  ((0x81, 0x60), '～'), ((0x81, 0x61), '∥'), ((0x81, 0x7C), '－'), ((0x81, 0x91), '￠'),
  ((0x81, 0x92), '￡'), ((0x81, 0xCA), '￢')]

/-- Symbols and kanji of vendors. -/
def cp932 : Plane := ⟨[(0x40, 0x7E), (0x80, 0xFC)], [
  (0x87, [
  "①②③④⑤⑥⑦⑧⑨⑩⑪⑫⑬⑭⑮⑯⑰⑱⑲⑳ⅠⅡⅢⅣⅤⅥⅦⅧⅨⅩ�㍉㌔㌢㍍㌘㌧㌃㌶㍑㍗㌍㌦㌣㌫㍊㌻㎜㎝㎞㎎㎏㏄㎡��������㍻〝〟№㏍℡㊤㊥㊦㊧㊨㈱㈲㈹㍾㍽㍼≒≡∫∮∑√⊥∠∟⊿∵∩∪"]),
  (0xED, [
  "纊褜鍈銈蓜俉炻昱棈鋹曻彅丨仡仼伀伃伹佖侒侊侚侔俍偀倢俿倞偆偰偂傔僴僘兊兤冝冾凬刕劜劦勀勛匀匇匤卲厓厲叝\ufa0e咜咊咩哿喆坙坥垬埈埇\ufa0f\ufa10增墲夋奓奛奝奣妤妺孖寀甯寘寬" ++
  "尞岦岺峵崧嵓\ufa11嵂嵭嶸嶹巐弡弴彧德忞恝悅悊惞惕愠惲愑愷愰憘戓抦揵摠撝擎敎昀昕昻昉昮昞昤晥晗晙\ufa12晳暙暠暲暿曺朎\uf929杦枻桒柀栁桄棏\ufa13楨\ufa14榘槢樰橫" ++
  "橆橳橾櫢櫤毖氿汜沆汯泚洄涇浯涖涬淏淸淲淼渹湜渧渼溿澈澵濵瀅瀇瀨炅炫焏焄煜煆煇\ufa15燁燾犱",
  "犾猤\ufa16獷玽珉珖珣珒琇珵琦琪琩琮瑢璉璟甁畯皂皜皞皛皦\ufa17睆劯砡硎硤硺礰\ufa18\ufa19\ufa1a禔\ufa1b禛竑竧\ufa1c竫箞\ufa1d絈絜綷綠緖繒罇羡" ++
  "\ufa1e茁荢荿菇菶葈蒴蕓蕙蕫\ufa1f薰\ufa20\ufa21蠇裵訒訷詹誧誾諟\ufa22諶譓譿賰賴贒赶\ufa23軏\ufa24\ufa25遧郞\ufa26鄕鄧釚釗釞釭釮釤釥鈆" ++
  "鈐鈊鈺鉀鈼鉎鉙鉑鈹鉧銧鉷鉸鋧鋗鋙鋐\ufa27鋕鋠鋓錥錡鋻\ufa28錞鋿錝錂鍰鍗鎤鏆鏞鏸鐱鑅鑈閒\uf9dc\ufa29隝隯霳霻靃靍靏靑靕顗顥\ufa2a\ufa2b餧\ufa2c馞驎" ++
  "髙髜魵魲鮏鮱鮻鰀鵰鵫\ufa2d鸙黑��ⅰⅱⅲⅳⅴⅵⅶⅷⅸⅹ￢￤＇＂"]),
  (0xFA, [
  "ⅰⅱⅲⅳⅴⅵⅶⅷⅸⅹⅠⅡⅢⅣⅤⅥⅦⅧⅨⅩ￢￤＇＂㈱№℡∵纊褜鍈銈蓜俉炻昱棈鋹曻彅丨仡仼伀伃伹佖侒侊侚侔俍偀倢俿倞偆偰偂傔僴僘兊兤冝冾凬刕劜劦勀勛匀匇匤卲厓厲叝\ufa0e咜咊咩哿喆坙坥垬" ++
  "埈埇\ufa0f\ufa10增墲夋奓奛奝奣妤妺孖寀甯寘寬尞岦岺峵崧嵓\ufa11嵂嵭嶸嶹巐弡弴彧德忞恝悅悊惞惕愠惲愑愷愰憘戓抦揵摠撝擎敎昀昕昻昉昮昞昤晥晗晙\ufa12晳暙暠暲暿曺朎" ++
  "\uf929杦枻桒柀栁桄棏\ufa13楨\ufa14榘槢樰橫橆橳橾櫢櫤毖氿汜沆汯泚洄涇浯",
  "涖涬淏淸淲淼渹湜渧渼溿澈澵濵瀅瀇瀨炅炫焏焄煜煆煇\ufa15燁燾犱犾猤\ufa16獷玽珉珖珣珒琇珵琦琪琩琮瑢璉璟甁畯皂皜皞皛皦\ufa17睆劯砡硎硤硺礰\ufa18\ufa19" ++
  "\ufa1a禔\ufa1b禛竑竧\ufa1c竫箞\ufa1d絈絜綷綠緖繒罇羡\ufa1e茁荢荿菇菶葈蒴蕓蕙蕫\ufa1f薰\ufa20\ufa21蠇裵訒訷詹誧誾諟\ufa22諶譓譿賰賴贒" ++
  "赶\ufa23軏\ufa24\ufa25遧郞\ufa26鄕鄧釚釗釞釭釮釤釥鈆鈐鈊鈺鉀鈼鉎鉙鉑鈹鉧銧鉷鉸鋧鋗鋙鋐\ufa27鋕鋠鋓錥錡鋻\ufa28錞鋿錝錂鍰鍗鎤鏆鏞鏸鐱鑅鑈閒\uf9dc" ++
  "\ufa29隝隯霳霻靃靍靏靑靕顗顥\ufa2a\ufa2b餧\ufa2c馞驎髙",
  "髜魵魲鮏鮱鮻鰀鵰鵫\ufa2d鸙黑"])]⟩

end TangleGateway.Plane
