/-!
# Character sets of single bytes

Encodings in which each byte is one character. A table lists the characters of the bytes from some
byte on; the bytes below it stand for the characters of the same number. A byte that means nothing
has the replacement character.
-/

namespace PhpOutline

/-- An encoding in which each byte is one character. -/
structure Charset where
  /-- The name of the encoding. -/
  name : String
  /-- Other names. -/
  aliases : List String
  /-- The first byte of the table. -/
  start : Nat
  /-- The characters of the bytes from `start` on. -/
  table : String
  deriving DecidableEq, Repr

namespace Charset

/-- The character of the same number as a byte. -/
def sameChar (b : UInt8) : Char := Char.ofNat b.toNat

/-- The text of bytes. -/
def decode (c : Charset) (bytes : List UInt8) : List Char :=
  let table := c.table.toList.toArray
  bytes.map fun b =>
    if b.toNat < c.start then sameChar b else (table[b.toNat - c.start]?).getD '\ufffd'

/-- The character set `cp037`. -/
def cp037 : Charset where
  name := "cp037"
  aliases := ["037", "csibm037", "ebcdic_cp_ca", "ebcdic_cp_nl", "ebcdic_cp_us", "ebcdic_cp_wt",
    "ibm037", "ibm039"]
  start := 0x00
  table :=
    "\u0000\u0001\u0002\u0003\u009c\u0009\u0086\u007f\u0097\u008d\u008e\u000b\u000c\u000d" ++
    "\u000e\u000f\u0010\u0011\u0012\u0013\u009d\u0085\u0008\u0087\u0018\u0019\u0092\u008f" ++
    "\u001c\u001d\u001e\u001f\u0080\u0081\u0082\u0083\u0084\u000a\u0017\u001b\u0088\u0089" ++
    "\u008a\u008b\u008c\u0005\u0006\u0007\u0090\u0091\u0016\u0093\u0094\u0095\u0096\u0004" ++
    "\u0098\u0099\u009a\u009b\u0014\u0015\u009e\u001a \u00a0âäàáãåçñ¢.<(+|&éêëèíîïìß!$*);¬-/Â" ++
    "ÄÀÁÃÅÇÑ¦,%_>?øÉÊËÈÍÎÏÌ`:#@'=\"Øabcdefghi«»ðýþ±°jklmnopqrªºæ\u00b8Æ¤µ~stuvwxyz¡¿ÐÝÞ®^£¥·©" ++
    "§¶¼½¾[]\u00af\u00a8\u00b4×\x7bABCDEFGHI\u00adôöòóõ\x7dJKLMNOPQR¹ûüùúÿ\\÷STUVWXYZ²ÔÖÒÓÕ01" ++
    "23456789³ÛÜÙÚ\u009f"

/-- The character set `cp273`. -/
def cp273 : Charset where
  name := "cp273"
  aliases := ["273", "ibm273", "csibm273"]
  start := 0x00
  table :=
    "\u0000\u0001\u0002\u0003\u009c\u0009\u0086\u007f\u0097\u008d\u008e\u000b\u000c\u000d" ++
    "\u000e\u000f\u0010\u0011\u0012\u0013\u009d\u0085\u0008\u0087\u0018\u0019\u0092\u008f" ++
    "\u001c\u001d\u001e\u001f\u0080\u0081\u0082\u0083\u0084\u000a\u0017\u001b\u0088\u0089" ++
    "\u008a\u008b\u008c\u0005\u0006\u0007\u0090\u0091\u0016\u0093\u0094\u0095\u0096\u0004" ++
    "\u0098\u0099\u009a\u009b\u0014\u0015\u009e\u001a \u00a0â\x7bàáãåçñÄ.<(+!&éêëèíîïì~Ü$*);^" ++
    "-/Â[ÀÁÃÅÇÑö,%_>?øÉÊËÈÍÎÏÌ`:#§'=\"Øabcdefghi«»ðýþ±°jklmnopqrªºæ\u00b8Æ¤µßstuvwxyz¡¿ÐÝÞ®¢£" ++
    "¥·©@¶¼½¾¬|‾\u00a8\u00b4×äABCDEFGHI\u00adô¦òóõüJKLMNOPQR¹û\x7dùúÿÖ÷STUVWXYZ²Ô\\ÒÓÕ0123456" ++
    "789³Û]ÙÚ\u009f"

/-- The character set `cp424`. -/
def cp424 : Charset where
  name := "cp424"
  aliases := ["424", "csibm424", "ebcdic_cp_he", "ibm424"]
  start := 0x00
  table :=
    "\u0000\u0001\u0002\u0003\u009c\u0009\u0086\u007f\u0097\u008d\u008e\u000b\u000c\u000d" ++
    "\u000e\u000f\u0010\u0011\u0012\u0013\u009d\u0085\u0008\u0087\u0018\u0019\u0092\u008f" ++
    "\u001c\u001d\u001e\u001f\u0080\u0081\u0082\u0083\u0084\u000a\u0017\u001b\u0088\u0089" ++
    "\u008a\u008b\u008c\u0005\u0006\u0007\u0090\u0091\u0016\u0093\u0094\u0095\u0096\u0004" ++
    "\u0098\u0099\u009a\u009b\u0014\u0015\u009e\u001a \u05d0\u05d1\u05d2\u05d3\u05d4\u05d5" ++
    "\u05d6\u05d7\u05d8¢.<(+|&\u05d9\u05da\u05db\u05dc\u05dd\u05de\u05df\u05e0\u05e1!$*);¬-/" ++
    "\u05e2\u05e3\u05e4\u05e5\u05e6\u05e7\u05e8\u05e9¦,%_>?\ufffd\u05ea\ufffd\ufffd\u00a0" ++
    "\ufffd\ufffd\ufffd‗`:#@'=\"\ufffdabcdefghi«»\ufffd\ufffd\ufffd±°jklmnopqr\ufffd\ufffd" ++
    "\ufffd\u00b8\ufffd¤µ~stuvwxyz\ufffd\ufffd\ufffd\ufffd\ufffd®^£¥·©§¶¼½¾[]\u00af\u00a8" ++
    "\u00b4×\x7bABCDEFGHI\u00ad\ufffd\ufffd\ufffd\ufffd\ufffd\x7dJKLMNOPQR¹\ufffd\ufffd\ufffd" ++
    "\ufffd\ufffd\\÷STUVWXYZ²\ufffd\ufffd\ufffd\ufffd\ufffd0123456789³\ufffd\ufffd\ufffd" ++
    "\ufffd\u009f"

/-- The character set `cp437`. -/
def cp437 : Charset where
  name := "cp437"
  aliases := ["437", "cspc8codepage437", "ibm437"]
  start := 0x80
  table :=
    "ÇüéâäàåçêëèïîìÄÅÉæÆôöòûùÿÖÜ¢£¥₧ƒáíóúñÑªº¿⌐¬½¼¡«»░▒▓│┤╡╢╖╕╣║╗╝╜╛┐└┴┬├─┼╞╟╚╔╩╦╠═╬╧╨╤╥╙╘╒╓╫" ++
    "╪┘┌█▄▌▐▀αßΓπΣσµτΦΘΩδ∞φε∩≡±≥≤⌠⌡÷≈°∙·√ⁿ²■\u00a0"

/-- The character set `cp500`. -/
def cp500 : Charset where
  name := "cp500"
  aliases := ["500", "csibm500", "ebcdic_cp_be", "ebcdic_cp_ch", "ibm500"]
  start := 0x00
  table :=
    "\u0000\u0001\u0002\u0003\u009c\u0009\u0086\u007f\u0097\u008d\u008e\u000b\u000c\u000d" ++
    "\u000e\u000f\u0010\u0011\u0012\u0013\u009d\u0085\u0008\u0087\u0018\u0019\u0092\u008f" ++
    "\u001c\u001d\u001e\u001f\u0080\u0081\u0082\u0083\u0084\u000a\u0017\u001b\u0088\u0089" ++
    "\u008a\u008b\u008c\u0005\u0006\u0007\u0090\u0091\u0016\u0093\u0094\u0095\u0096\u0004" ++
    "\u0098\u0099\u009a\u009b\u0014\u0015\u009e\u001a \u00a0âäàáãåçñ[.<(+!&éêëèíîïìß]$*);^-/Â" ++
    "ÄÀÁÃÅÇÑ¦,%_>?øÉÊËÈÍÎÏÌ`:#@'=\"Øabcdefghi«»ðýþ±°jklmnopqrªºæ\u00b8Æ¤µ~stuvwxyz¡¿ÐÝÞ®¢£¥·©" ++
    "§¶¼½¾¬|\u00af\u00a8\u00b4×\x7bABCDEFGHI\u00adôöòóõ\x7dJKLMNOPQR¹ûüùúÿ\\÷STUVWXYZ²ÔÖÒÓÕ01" ++
    "23456789³ÛÜÙÚ\u009f"

/-- The character set `cp720`. -/
def cp720 : Charset where
  name := "cp720"
  aliases := []
  start := 0x80
  table :=
    "\u0080\u0081éâ\u0084à\u0086çêëèïî\u008d\u008e\u008f\u0090\u0651\u0652ô¤\u0640ûù\u0621" ++
    "\u0622\u0623\u0624£\u0625\u0626\u0627\u0628\u0629\u062a\u062b\u062c\u062d\u062e\u062f" ++
    "\u0630\u0631\u0632\u0633\u0634\u0635«»░▒▓│┤╡╢╖╕╣║╗╝╜╛┐└┴┬├─┼╞╟╚╔╩╦╠═╬╧╨╤╥╙╘╒╓╫╪┘┌█▄▌▐▀" ++
    "\u0636\u0637\u0638\u0639\u063a\u0641µ\u0642\u0643\u0644\u0645\u0646\u0647\u0648\u0649" ++
    "\u064a≡\u064b\u064c\u064d\u064e\u064f\u0650≈°∙·√ⁿ²■\u00a0"

/-- The character set `cp737`. -/
def cp737 : Charset where
  name := "cp737"
  aliases := []
  start := 0x80
  table :=
    "ΑΒΓΔΕΖΗΘΙΚΛΜΝΞΟΠΡΣΤΥΦΧΨΩαβγδεζηθικλμνξοπρσςτυφχψ░▒▓│┤╡╢╖╕╣║╗╝╜╛┐└┴┬├─┼╞╟╚╔╩╦╠═╬╧╨╤╥╙╘╒╓╫" ++
    "╪┘┌█▄▌▐▀ωάέήϊίόύϋώΆΈΉΊΌΎΏ±≥≤ΪΫ÷≈°∙·√ⁿ²■\u00a0"

/-- The character set `cp775`. -/
def cp775 : Charset where
  name := "cp775"
  aliases := ["775", "cspc775baltic", "ibm775"]
  start := 0x80
  table :=
    "ĆüéāäģåćłēŖŗīŹÄÅÉæÆōöĢ¢ŚśÖÜø£Ø×¤ĀĪóŻżź”¦©®¬½¼Ł«»░▒▓│┤ĄČĘĖ╣║╗╝ĮŠ┐└┴┬├─┼ŲŪ╚╔╩╦╠═╬Žąčęėįšųū" ++
    "ž┘┌█▄▌▐▀ÓßŌŃõÕµńĶķĻļņĒŅ’\u00ad±“¾¶§÷„°∙·¹³²■\u00a0"

/-- The character set `cp850`. -/
def cp850 : Charset where
  name := "cp850"
  aliases := ["850", "cspc850multilingual", "ibm850"]
  start := 0x80
  table :=
    "ÇüéâäàåçêëèïîìÄÅÉæÆôöòûùÿÖÜø£Ø×ƒáíóúñÑªº¿®¬½¼¡«»░▒▓│┤ÁÂÀ©╣║╗╝¢¥┐└┴┬├─┼ãÃ╚╔╩╦╠═╬¤ðÐÊËÈıÍÎ" ++
    "Ï┘┌█▄¦Ì▀ÓßÔÒõÕµþÞÚÛÙýÝ\u00af\u00b4\u00ad±‗¾¶§÷\u00b8°\u00a8·¹³²■\u00a0"

/-- The character set `cp852`. -/
def cp852 : Charset where
  name := "cp852"
  aliases := ["852", "cspcp852", "ibm852"]
  start := 0x80
  table :=
    "ÇüéâäůćçłëŐőîŹÄĆÉĹĺôöĽľŚśÖÜŤťŁ×čáíóúĄąŽžĘę¬źČş«»░▒▓│┤ÁÂĚŞ╣║╗╝Żż┐└┴┬├─┼Ăă╚╔╩╦╠═╬¤đĐĎËďŇÍÎ" ++
    "ě┘┌█▄ŢŮ▀ÓßÔŃńňŠšŔÚŕŰýÝţ\u00b4\u00ad\u02dd\u02dbˇ\u02d8§÷\u00b8°\u00a8\u02d9űŘř■\u00a0"

/-- The character set `cp855`. -/
def cp855 : Charset where
  name := "cp855"
  aliases := ["855", "csibm855", "ibm855"]
  start := 0x80
  table :=
    "ђЂѓЃёЁєЄѕЅіІїЇјЈљЉњЊћЋќЌўЎџЏюЮъЪаАбБцЦдДеЕфФгГ«»░▒▓│┤хХиИ╣║╗╝йЙ┐└┴┬├─┼кК╚╔╩╦╠═╬¤лЛмМнНоО" ++
    "п┘┌█▄Пя▀ЯрРсСтТуУжЖвВьЬ№\u00adыЫзЗшШэЭщЩчЧ§■\u00a0"

/-- The character set `cp856`. -/
def cp856 : Charset where
  name := "cp856"
  aliases := []
  start := 0x80
  table :=
    "\u05d0\u05d1\u05d2\u05d3\u05d4\u05d5\u05d6\u05d7\u05d8\u05d9\u05da\u05db\u05dc\u05dd" ++
    "\u05de\u05df\u05e0\u05e1\u05e2\u05e3\u05e4\u05e5\u05e6\u05e7\u05e8\u05e9\u05ea\ufffd£" ++
    "\ufffd×\ufffd\ufffd\ufffd\ufffd\ufffd\ufffd\ufffd\ufffd\ufffd\ufffd®¬½¼\ufffd«»░▒▓│┤" ++
    "\ufffd\ufffd\ufffd©╣║╗╝¢¥┐└┴┬├─┼\ufffd\ufffd╚╔╩╦╠═╬¤\ufffd\ufffd\ufffd\ufffd\ufffd\ufffd" ++
    "\ufffd\ufffd\ufffd┘┌█▄¦\ufffd▀\ufffd\ufffd\ufffd\ufffd\ufffd\ufffdµ\ufffd\ufffd\ufffd" ++
    "\ufffd\ufffd\ufffd\ufffd\u00af\u00b4\u00ad±‗¾¶§÷\u00b8°\u00a8·¹³²■\u00a0"

/-- The character set `cp857`. -/
def cp857 : Charset where
  name := "cp857"
  aliases := ["857", "csibm857", "ibm857"]
  start := 0x80
  table :=
    "ÇüéâäàåçêëèïîıÄÅÉæÆôöòûùİÖÜø£ØŞşáíóúñÑĞğ¿®¬½¼¡«»░▒▓│┤ÁÂÀ©╣║╗╝¢¥┐└┴┬├─┼ãÃ╚╔╩╦╠═╬¤ºªÊËÈ" ++
    "\ufffdÍÎÏ┘┌█▄¦Ì▀ÓßÔÒõÕµ\ufffd×ÚÛÙìÿ\u00af\u00b4\u00ad±\ufffd¾¶§÷\u00b8°\u00a8·¹³²■\u00a0"

/-- The character set `cp858`. -/
def cp858 : Charset where
  name := "cp858"
  aliases := ["858", "csibm858", "ibm858"]
  start := 0x80
  table :=
    "ÇüéâäàåçêëèïîìÄÅÉæÆôöòûùÿÖÜø£Ø×ƒáíóúñÑªº¿®¬½¼¡«»░▒▓│┤ÁÂÀ©╣║╗╝¢¥┐└┴┬├─┼ãÃ╚╔╩╦╠═╬¤ðÐÊËÈ€ÍÎ" ++
    "Ï┘┌█▄¦Ì▀ÓßÔÒõÕµþÞÚÛÙýÝ\u00af\u00b4\u00ad±‗¾¶§÷\u00b8°\u00a8·¹³²■\u00a0"

/-- The character set `cp860`. -/
def cp860 : Charset where
  name := "cp860"
  aliases := ["860", "csibm860", "ibm860"]
  start := 0x80
  table :=
    "ÇüéâãàÁçêÊèÍÔìÃÂÉÀÈôõòÚùÌÕÜ¢£Ù₧ÓáíóúñÑªº¿Ò¬½¼¡«»░▒▓│┤╡╢╖╕╣║╗╝╜╛┐└┴┬├─┼╞╟╚╔╩╦╠═╬╧╨╤╥╙╘╒╓╫" ++
    "╪┘┌█▄▌▐▀αßΓπΣσµτΦΘΩδ∞φε∩≡±≥≤⌠⌡÷≈°∙·√ⁿ²■\u00a0"

/-- The character set `cp861`. -/
def cp861 : Charset where
  name := "cp861"
  aliases := ["861", "cp_is", "csibm861", "ibm861"]
  start := 0x80
  table :=
    "ÇüéâäàåçêëèÐðÞÄÅÉæÆôöþûÝýÖÜø£Ø₧ƒáíóúÁÍÓÚ¿⌐¬½¼¡«»░▒▓│┤╡╢╖╕╣║╗╝╜╛┐└┴┬├─┼╞╟╚╔╩╦╠═╬╧╨╤╥╙╘╒╓╫" ++
    "╪┘┌█▄▌▐▀αßΓπΣσµτΦΘΩδ∞φε∩≡±≥≤⌠⌡÷≈°∙·√ⁿ²■\u00a0"

/-- The character set `cp862`. -/
def cp862 : Charset where
  name := "cp862"
  aliases := ["862", "cspc862latinhebrew", "ibm862"]
  start := 0x80
  table :=
    "\u05d0\u05d1\u05d2\u05d3\u05d4\u05d5\u05d6\u05d7\u05d8\u05d9\u05da\u05db\u05dc\u05dd" ++
    "\u05de\u05df\u05e0\u05e1\u05e2\u05e3\u05e4\u05e5\u05e6\u05e7\u05e8\u05e9\u05ea¢£¥₧ƒáíóúñ" ++
    "Ñªº¿⌐¬½¼¡«»░▒▓│┤╡╢╖╕╣║╗╝╜╛┐└┴┬├─┼╞╟╚╔╩╦╠═╬╧╨╤╥╙╘╒╓╫╪┘┌█▄▌▐▀αßΓπΣσµτΦΘΩδ∞φε∩≡±≥≤⌠⌡÷≈°∙·√ⁿ" ++
    "²■\u00a0"

/-- The character set `cp863`. -/
def cp863 : Charset where
  name := "cp863"
  aliases := ["863", "csibm863", "ibm863"]
  start := 0x80
  table :=
    "ÇüéâÂà¶çêëèïî‗À§ÉÈÊôËÏûù¤ÔÜ¢£ÙÛƒ¦\u00b4óú\u00a8\u00b8³\u00afÎ⌐¬½¼¾«»░▒▓│┤╡╢╖╕╣║╗╝╜╛┐└┴┬├" ++
    "─┼╞╟╚╔╩╦╠═╬╧╨╤╥╙╘╒╓╫╪┘┌█▄▌▐▀αßΓπΣσµτΦΘΩδ∞φε∩≡±≥≤⌠⌡÷≈°∙·√ⁿ²■\u00a0"

/-- The character set `cp864`. -/
def cp864 : Charset where
  name := "cp864"
  aliases := ["864", "csibm864", "ibm864"]
  start := 0x00
  table :=
    "\u0000\u0001\u0002\u0003\u0004\u0005\u0006\u0007\u0008\u0009\u000a\u000b\u000c\u000d" ++
    "\u000e\u000f\u0010\u0011\u0012\u0013\u0014\u0015\u0016\u0017\u0018\u0019\u001a\u001b" ++
    "\u001c\u001d\u001e\u001f !\"#$٪&'()*+,-./0123456789:;<=>?@ABCDEFGHIJKLMNOPQRSTUVWXYZ[\\]" ++
    "^_`abcdefghijklmnopqrstuvwxyz\x7b|\x7d~\u007f°·∙√▒─│┼┤┬├┴┐┌└┘β∞φ±½¼≈«»\ufef7\ufef8\ufffd" ++
    "\ufffd\ufefb\ufefc\ufffd\u00a0\u00ad\ufe82£¤\ufe84\ufffd\ufffd\ufe8e\ufe8f\ufe95\ufe99،" ++
    "\ufe9d\ufea1\ufea5\u0660\u0661\u0662\u0663\u0664\u0665\u0666\u0667\u0668\u0669\ufed1" ++
    "\u061b\ufeb1\ufeb5\ufeb9\u061f¢\ufe80\ufe81\ufe83\ufe85\ufeca\ufe8b\ufe8d\ufe91\ufe93" ++
    "\ufe97\ufe9b\ufe9f\ufea3\ufea7\ufea9\ufeab\ufead\ufeaf\ufeb3\ufeb7\ufebb\ufebf\ufec1" ++
    "\ufec5\ufecb\ufecf¦¬÷×\ufec9\u0640\ufed3\ufed7\ufedb\ufedf\ufee3\ufee7\ufeeb\ufeed\ufeef" ++
    "\ufef3\ufebd\ufecc\ufece\ufecd\ufee1\ufe7d\u0651\ufee5\ufee9\ufeec\ufef0\ufef2\ufed0" ++
    "\ufed5\ufef5\ufef6\ufedd\ufed9\ufef1■\ufffd"

/-- The character set `cp865`. -/
def cp865 : Charset where
  name := "cp865"
  aliases := ["865", "csibm865", "ibm865"]
  start := 0x80
  table :=
    "ÇüéâäàåçêëèïîìÄÅÉæÆôöòûùÿÖÜø£Ø₧ƒáíóúñÑªº¿⌐¬½¼¡«¤░▒▓│┤╡╢╖╕╣║╗╝╜╛┐└┴┬├─┼╞╟╚╔╩╦╠═╬╧╨╤╥╙╘╒╓╫" ++
    "╪┘┌█▄▌▐▀αßΓπΣσµτΦΘΩδ∞φε∩≡±≥≤⌠⌡÷≈°∙·√ⁿ²■\u00a0"

/-- The character set `cp866`. -/
def cp866 : Charset where
  name := "cp866"
  aliases := ["866", "csibm866", "ibm866"]
  start := 0x80
  table :=
    "АБВГДЕЖЗИЙКЛМНОПРСТУФХЦЧШЩЪЫЬЭЮЯабвгдежзийклмноп░▒▓│┤╡╢╖╕╣║╗╝╜╛┐└┴┬├─┼╞╟╚╔╩╦╠═╬╧╨╤╥╙╘╒╓╫" ++
    "╪┘┌█▄▌▐▀рстуфхцчшщъыьэюяЁёЄєЇїЎў°∙·√№¤■\u00a0"

/-- The character set `cp869`. -/
def cp869 : Charset where
  name := "cp869"
  aliases := ["869", "cp_gr", "csibm869", "ibm869"]
  start := 0x80
  table :=
    "\ufffd\ufffd\ufffd\ufffd\ufffd\ufffdΆ\ufffd·¬¦‘’Έ―ΉΊΪΌ\ufffd\ufffdΎΫ©Ώ²³ά£έήίϊΐόύΑΒΓΔΕΖΗ" ++
    "½ΘΙ«»░▒▓│┤ΚΛΜΝ╣║╗╝ΞΟ┐└┴┬├─┼ΠΡ╚╔╩╦╠═╬ΣΤΥΦΧΨΩαβγ┘┌█▄δε▀ζηθικλμνξοπρσςτ\u0384\u00ad±υφχ§ψ" ++
    "\u0385°\u00a8ωϋΰώ■\u00a0"

/-- The character set `cp874`. -/
def cp874 : Charset where
  name := "cp874"
  aliases := []
  start := 0x80
  table :=
    "€\ufffd\ufffd\ufffd\ufffd…\ufffd\ufffd\ufffd\ufffd\ufffd\ufffd\ufffd\ufffd\ufffd\ufffd" ++
    "\ufffd‘’“”•–—\ufffd\ufffd\ufffd\ufffd\ufffd\ufffd\ufffd\ufffd\u00a0กขฃคฅฆงจฉชซฌญฎฏฐฑฒณดต" ++
    "ถทธนบปผฝพฟภมยรฤลฦวศษสหฬอฮฯะ\u0e31าำ\u0e34\u0e35\u0e36\u0e37\u0e38\u0e39\u0e3a\ufffd" ++
    "\ufffd\ufffd\ufffd฿เแโใไๅๆ\u0e47\u0e48\u0e49\u0e4a\u0e4b\u0e4c\u0e4d\u0e4e๏๐๑๒๓๔๕๖๗๘๙๚๛" ++
    "\ufffd\ufffd\ufffd\ufffd"

/-- The character set `cp875`. -/
def cp875 : Charset where
  name := "cp875"
  aliases := []
  start := 0x00
  table :=
    "\u0000\u0001\u0002\u0003\u009c\u0009\u0086\u007f\u0097\u008d\u008e\u000b\u000c\u000d" ++
    "\u000e\u000f\u0010\u0011\u0012\u0013\u009d\u0085\u0008\u0087\u0018\u0019\u0092\u008f" ++
    "\u001c\u001d\u001e\u001f\u0080\u0081\u0082\u0083\u0084\u000a\u0017\u001b\u0088\u0089" ++
    "\u008a\u008b\u008c\u0005\u0006\u0007\u0090\u0091\u0016\u0093\u0094\u0095\u0096\u0004" ++
    "\u0098\u0099\u009a\u009b\u0014\u0015\u009e\u001a ΑΒΓΔΕΖΗΘΙ[.<(+!&ΚΛΜΝΞΟΠΡΣ]$*);^-/ΤΥΦΧΨΩ" ++
    "ΪΫ|,%_>?\u00a8ΆΈΉ\u00a0ΊΌΎΏ`:#@'=\"\u0385abcdefghiαβγδεζ°jklmnopqrηθικλμ\u00b4~stuvwxyzν" ++
    "ξοπρσ£άέήϊίόύϋώςτυφχψ\x7bABCDEFGHI\u00adωΐΰ‘―\x7dJKLMNOPQR±½\u001a·’¦\\\u001aSTUVWXYZ²§" ++
    "\u001a\u001a«¬0123456789³©\u001a\u001a»\u009f"

/-- The character set `cp1006`. -/
def cp1006 : Charset where
  name := "cp1006"
  aliases := []
  start := 0xa0
  table :=
    "\u00a0۰۱۲۳۴۵۶۷۸۹،\u061b\u00ad\u061f\ufe81\ufe8d\ufe8e\ufe8e\ufe8f\ufe91\ufb56\ufb58" ++
    "\ufe93\ufe95\ufe97\ufb66\ufb68\ufe99\ufe9b\ufe9d\ufe9f\ufb7a\ufb7c\ufea1\ufea3\ufea5" ++
    "\ufea7\ufea9\ufb84\ufeab\ufead\ufb8c\ufeaf\ufb8a\ufeb1\ufeb3\ufeb5\ufeb7\ufeb9\ufebb" ++
    "\ufebd\ufebf\ufec1\ufec5\ufec9\ufeca\ufecb\ufecc\ufecd\ufece\ufecf\ufed0\ufed1\ufed3" ++
    "\ufed5\ufed7\ufed9\ufedb\ufb92\ufb94\ufedd\ufedf\ufee0\ufee1\ufee3\ufb9e\ufee5\ufee7" ++
    "\ufe85\ufeed\ufba6\ufba8\ufba9\ufbaa\ufe80\ufe89\ufe8a\ufe8b\ufef1\ufef2\ufef3\ufbb0" ++
    "\ufbae\ufe7c\ufe7d"

/-- The character set `cp1026`. -/
def cp1026 : Charset where
  name := "cp1026"
  aliases := ["1026", "csibm1026", "ibm1026"]
  start := 0x00
  table :=
    "\u0000\u0001\u0002\u0003\u009c\u0009\u0086\u007f\u0097\u008d\u008e\u000b\u000c\u000d" ++
    "\u000e\u000f\u0010\u0011\u0012\u0013\u009d\u0085\u0008\u0087\u0018\u0019\u0092\u008f" ++
    "\u001c\u001d\u001e\u001f\u0080\u0081\u0082\u0083\u0084\u000a\u0017\u001b\u0088\u0089" ++
    "\u008a\u008b\u008c\u0005\u0006\u0007\u0090\u0091\u0016\u0093\u0094\u0095\u0096\u0004" ++
    "\u0098\u0099\u009a\u009b\u0014\u0015\u009e\u001a \u00a0âäàáãå\x7bñÇ.<(+!&éêëèíîïìßĞİ*);^" ++
    "-/ÂÄÀÁÃÅ[Ñş,%_>?øÉÊËÈÍÎÏÌı:ÖŞ'=ÜØabcdefghi«»\x7d`¦±°jklmnopqrªºæ\u00b8Æ¤µöstuvwxyz¡¿]$@®" ++
    "¢£¥·©§¶¼½¾¬|\u00af\u00a8\u00b4×çABCDEFGHI\u00adô~òóõğJKLMNOPQR¹û\\ùúÿü÷STUVWXYZ²Ô#ÒÓÕ012" ++
    "3456789³Û\"ÙÚ\u009f"

/-- The character set `cp1125`. -/
def cp1125 : Charset where
  name := "cp1125"
  aliases := ["1125", "ibm1125", "cp866u", "ruscii"]
  start := 0x80
  table :=
    "АБВГДЕЖЗИЙКЛМНОПРСТУФХЦЧШЩЪЫЬЭЮЯабвгдежзийклмноп░▒▓│┤╡╢╖╕╣║╗╝╜╛┐└┴┬├─┼╞╟╚╔╩╦╠═╬╧╨╤╥╙╘╒╓╫" ++
    "╪┘┌█▄▌▐▀рстуфхцчшщъыьэюяЁёҐґЄєІіЇї·√№¤■\u00a0"

/-- The character set `cp1140`. -/
def cp1140 : Charset where
  name := "cp1140"
  aliases := ["1140", "ibm1140"]
  start := 0x00
  table :=
    "\u0000\u0001\u0002\u0003\u009c\u0009\u0086\u007f\u0097\u008d\u008e\u000b\u000c\u000d" ++
    "\u000e\u000f\u0010\u0011\u0012\u0013\u009d\u0085\u0008\u0087\u0018\u0019\u0092\u008f" ++
    "\u001c\u001d\u001e\u001f\u0080\u0081\u0082\u0083\u0084\u000a\u0017\u001b\u0088\u0089" ++
    "\u008a\u008b\u008c\u0005\u0006\u0007\u0090\u0091\u0016\u0093\u0094\u0095\u0096\u0004" ++
    "\u0098\u0099\u009a\u009b\u0014\u0015\u009e\u001a \u00a0âäàáãåçñ¢.<(+|&éêëèíîïìß!$*);¬-/Â" ++
    "ÄÀÁÃÅÇÑ¦,%_>?øÉÊËÈÍÎÏÌ`:#@'=\"Øabcdefghi«»ðýþ±°jklmnopqrªºæ\u00b8Æ€µ~stuvwxyz¡¿ÐÝÞ®^£¥·©" ++
    "§¶¼½¾[]\u00af\u00a8\u00b4×\x7bABCDEFGHI\u00adôöòóõ\x7dJKLMNOPQR¹ûüùúÿ\\÷STUVWXYZ²ÔÖÒÓÕ01" ++
    "23456789³ÛÜÙÚ\u009f"

/-- The character set `cp1250`. -/
def cp1250 : Charset where
  name := "cp1250"
  aliases := ["1250", "windows_1250"]
  start := 0x80
  table :=
    "€\ufffd‚\ufffd„…†‡\ufffd‰Š‹ŚŤŽŹ\ufffd‘’“”•–—\ufffd™š›śťžź\u00a0ˇ\u02d8Ł¤Ą¦§\u00a8©Ş«¬" ++
    "\u00ad®Ż°±\u02dbł\u00b4µ¶·\u00b8ąş»Ľ\u02ddľżŔÁÂĂÄĹĆÇČÉĘËĚÍÎĎĐŃŇÓÔŐÖ×ŘŮÚŰÜÝŢßŕáâăäĺćçčéęë" ++
    "ěíîďđńňóôőö÷řůúűüýţ\u02d9"

/-- The character set `cp1251`. -/
def cp1251 : Charset where
  name := "cp1251"
  aliases := ["1251", "windows_1251"]
  start := 0x80
  table :=
    "ЂЃ‚ѓ„…†‡€‰Љ‹ЊЌЋЏђ‘’“”•–—\ufffd™љ›њќћџ\u00a0ЎўЈ¤Ґ¦§Ё©Є«¬\u00ad®Ї°±Ііґµ¶·ё№є»јЅѕїАБВГДЕЖЗИ" ++
    "ЙКЛМНОПРСТУФХЦЧШЩЪЫЬЭЮЯабвгдежзийклмнопрстуфхцчшщъыьэюя"

/-- The character set `cp1253`. -/
def cp1253 : Charset where
  name := "cp1253"
  aliases := ["1253", "windows_1253"]
  start := 0x80
  table :=
    "€\ufffd‚ƒ„…†‡\ufffd‰\ufffd‹\ufffd\ufffd\ufffd\ufffd\ufffd‘’“”•–—\ufffd™\ufffd›\ufffd" ++
    "\ufffd\ufffd\ufffd\u00a0\u0385Ά£¤¥¦§\u00a8©\ufffd«¬\u00ad®―°±²³\u0384µ¶·ΈΉΊ»Ό½ΎΏΐΑΒΓΔΕΖΗ" ++
    "ΘΙΚΛΜΝΞΟΠΡ\ufffdΣΤΥΦΧΨΩΪΫάέήίΰαβγδεζηθικλμνξοπρςστυφχψωϊϋόύώ\ufffd"

/-- The character set `cp1254`. -/
def cp1254 : Charset where
  name := "cp1254"
  aliases := ["1254", "windows_1254"]
  start := 0x80
  table :=
    "€\ufffd‚ƒ„…†‡ˆ‰Š‹Œ\ufffd\ufffd\ufffd\ufffd‘’“”•–—\u02dc™š›œ\ufffd\ufffdŸ\u00a0¡¢£¤¥¦§" ++
    "\u00a8©ª«¬\u00ad®\u00af°±²³\u00b4µ¶·\u00b8¹º»¼½¾¿ÀÁÂÃÄÅÆÇÈÉÊËÌÍÎÏĞÑÒÓÔÕÖ×ØÙÚÛÜİŞßàáâãäåæ" ++
    "çèéêëìíîïğñòóôõö÷øùúûüışÿ"

/-- The character set `cp1255`. -/
def cp1255 : Charset where
  name := "cp1255"
  aliases := ["1255", "windows_1255"]
  start := 0x80
  table :=
    "€\ufffd‚ƒ„…†‡ˆ‰\ufffd‹\ufffd\ufffd\ufffd\ufffd\ufffd‘’“”•–—\u02dc™\ufffd›\ufffd\ufffd" ++
    "\ufffd\ufffd\u00a0¡¢£₪¥¦§\u00a8©×«¬\u00ad®\u00af°±²³\u00b4µ¶·\u00b8¹÷»¼½¾¿\u05b0\u05b1" ++
    "\u05b2\u05b3\u05b4\u05b5\u05b6\u05b7\u05b8\u05b9\ufffd\u05bb\u05bc\u05bd\u05be\u05bf" ++
    "\u05c0\u05c1\u05c2\u05c3\u05f0\u05f1\u05f2\u05f3\u05f4\ufffd\ufffd\ufffd\ufffd\ufffd" ++
    "\ufffd\ufffd\u05d0\u05d1\u05d2\u05d3\u05d4\u05d5\u05d6\u05d7\u05d8\u05d9\u05da\u05db" ++
    "\u05dc\u05dd\u05de\u05df\u05e0\u05e1\u05e2\u05e3\u05e4\u05e5\u05e6\u05e7\u05e8\u05e9" ++
    "\u05ea\ufffd\ufffd\u200e\u200f\ufffd"

/-- The character set `cp1256`. -/
def cp1256 : Charset where
  name := "cp1256"
  aliases := ["1256", "windows_1256"]
  start := 0x80
  table :=
    "€\u067e‚ƒ„…†‡ˆ‰\u0679‹Œ\u0686\u0698\u0688\u06af‘’“”•–—\u06a9™\u0691›œ\u200c\u200d\u06ba" ++
    "\u00a0،¢£¤¥¦§\u00a8©\u06be«¬\u00ad®\u00af°±²³\u00b4µ¶·\u00b8¹\u061b»¼½¾\u061f\u06c1" ++
    "\u0621\u0622\u0623\u0624\u0625\u0626\u0627\u0628\u0629\u062a\u062b\u062c\u062d\u062e" ++
    "\u062f\u0630\u0631\u0632\u0633\u0634\u0635\u0636×\u0637\u0638\u0639\u063a\u0640\u0641" ++
    "\u0642\u0643à\u0644â\u0645\u0646\u0647\u0648çèéêë\u0649\u064aîï\u064b\u064c\u064d\u064eô" ++
    "\u064f\u0650÷\u0651ù\u0652ûü\u200e\u200f\u06d2"

/-- The character set `cp1257`. -/
def cp1257 : Charset where
  name := "cp1257"
  aliases := ["1257", "windows_1257"]
  start := 0x80
  table :=
    "€\ufffd‚\ufffd„…†‡\ufffd‰\ufffd‹\ufffd\u00a8ˇ\u00b8\ufffd‘’“”•–—\ufffd™\ufffd›\ufffd" ++
    "\u00af\u02db\ufffd\u00a0\ufffd¢£¤\ufffd¦§Ø©Ŗ«¬\u00ad®Æ°±²³\u00b4µ¶·ø¹ŗ»¼½¾æĄĮĀĆÄÅĘĒČÉŹĖĢ" ++
    "ĶĪĻŠŃŅÓŌÕÖ×ŲŁŚŪÜŻŽßąįāćäåęēčéźėģķīļšńņóōõö÷ųłśūüżž\u02d9"

/-- The character set `cp1258`. -/
def cp1258 : Charset where
  name := "cp1258"
  aliases := ["1258", "windows_1258"]
  start := 0x80
  table :=
    "€\ufffd‚ƒ„…†‡ˆ‰\ufffd‹Œ\ufffd\ufffd\ufffd\ufffd‘’“”•–—\u02dc™\ufffd›œ\ufffd\ufffdŸ\u00a0" ++
    "¡¢£¤¥¦§\u00a8©ª«¬\u00ad®\u00af°±²³\u00b4µ¶·\u00b8¹º»¼½¾¿ÀÁÂĂÄÅÆÇÈÉÊË\u0300ÍÎÏĐÑ\u0309ÓÔƠ" ++
    "Ö×ØÙÚÛÜƯ\u0303ßàáâăäåæçèéêë\u0301íîïđñ\u0323óôơö÷øùúûüư₫ÿ"

/-- The character set `hp_roman8`. -/
def hpRoman8 : Charset where
  name := "hp_roman8"
  aliases := ["roman8", "r8", "csHPRoman8", "cp1051", "ibm1051"]
  start := 0xa0
  table :=
    "\u00a0ÀÂÈÊËÎÏ\u00b4ˋˆ\u00a8\u02dcÙÛ₤\u00afÝý°ÇçÑñ¡¿¤£¥§ƒ¢âêôûáéóúàèòùäëöüÅîØÆåíøæÄìÖÜÉïß" ++
    "ÔÁÃãÐðÍÌÓÒÕõŠšÚŸÿÞþ·µ¶¾—¼½ªº«■»±\ufffd"

/-- The character set `iso8859_2`. -/
def iso88592 : Charset where
  name := "iso8859_2"
  aliases := ["csisolatin2", "iso_8859_2", "iso_8859_2_1987", "iso_ir_101", "l2", "latin2"]
  start := 0xa0
  table :=
    "\u00a0Ą\u02d8Ł¤ĽŚ§\u00a8ŠŞŤŹ\u00adŽŻ°ą\u02dbł\u00b4ľśˇ\u00b8šşťź\u02ddžżŔÁÂĂÄĹĆÇČÉĘËĚÍÎĎ" ++
    "ĐŃŇÓÔŐÖ×ŘŮÚŰÜÝŢßŕáâăäĺćçčéęëěíîďđńňóôőö÷řůúűüýţ\u02d9"

/-- The character set `iso8859_3`. -/
def iso88593 : Charset where
  name := "iso8859_3"
  aliases := ["csisolatin3", "iso_8859_3", "iso_8859_3_1988", "iso_ir_109", "l3", "latin3"]
  start := 0xa0
  table :=
    "\u00a0Ħ\u02d8£¤\ufffdĤ§\u00a8İŞĞĴ\u00ad\ufffdŻ°ħ²³\u00b4µĥ·\u00b8ışğĵ½\ufffdżÀÁÂ\ufffdÄĊ" ++
    "ĈÇÈÉÊËÌÍÎÏ\ufffdÑÒÓÔĠÖ×ĜÙÚÛÜŬŜßàáâ\ufffdäċĉçèéêëìíîï\ufffdñòóôġö÷ĝùúûüŭŝ\u02d9"

/-- The character set `iso8859_4`. -/
def iso88594 : Charset where
  name := "iso8859_4"
  aliases := ["csisolatin4", "iso_8859_4", "iso_8859_4_1988", "iso_ir_110", "l4", "latin4"]
  start := 0xa0
  table :=
    "\u00a0ĄĸŖ¤ĨĻ§\u00a8ŠĒĢŦ\u00adŽ\u00af°ą\u02dbŗ\u00b4ĩļˇ\u00b8šēģŧŊžŋĀÁÂÃÄÅÆĮČÉĘËĖÍÎĪĐŅŌĶÔ" ++
    "ÕÖ×ØŲÚÛÜŨŪßāáâãäåæįčéęëėíîīđņōķôõö÷øųúûüũū\u02d9"

/-- The character set `iso8859_5`. -/
def iso88595 : Charset where
  name := "iso8859_5"
  aliases := ["csisolatincyrillic", "cyrillic", "iso_8859_5", "iso_8859_5_1988", "iso_ir_144"]
  start := 0xa0
  table :=
    "\u00a0ЁЂЃЄЅІЇЈЉЊЋЌ\u00adЎЏАБВГДЕЖЗИЙКЛМНОПРСТУФХЦЧШЩЪЫЬЭЮЯабвгдежзийклмнопрстуфхцчшщъыьэ" ++
    "юя№ёђѓєѕіїјљњћќ§ўџ"

/-- The character set `iso8859_6`. -/
def iso88596 : Charset where
  name := "iso8859_6"
  aliases := ["arabic", "asmo_708", "csisolatinarabic", "ecma_114", "iso_8859_6",
    "iso_8859_6_1987", "iso_ir_127"]
  start := 0xa0
  table :=
    "\u00a0\ufffd\ufffd\ufffd¤\ufffd\ufffd\ufffd\ufffd\ufffd\ufffd\ufffd،\u00ad\ufffd\ufffd" ++
    "\ufffd\ufffd\ufffd\ufffd\ufffd\ufffd\ufffd\ufffd\ufffd\ufffd\ufffd\u061b\ufffd\ufffd" ++
    "\ufffd\u061f\ufffd\u0621\u0622\u0623\u0624\u0625\u0626\u0627\u0628\u0629\u062a\u062b" ++
    "\u062c\u062d\u062e\u062f\u0630\u0631\u0632\u0633\u0634\u0635\u0636\u0637\u0638\u0639" ++
    "\u063a\ufffd\ufffd\ufffd\ufffd\ufffd\u0640\u0641\u0642\u0643\u0644\u0645\u0646\u0647" ++
    "\u0648\u0649\u064a\u064b\u064c\u064d\u064e\u064f\u0650\u0651\u0652\ufffd\ufffd\ufffd" ++
    "\ufffd\ufffd\ufffd\ufffd\ufffd\ufffd\ufffd\ufffd\ufffd\ufffd"

/-- The character set `iso8859_7`. -/
def iso88597 : Charset where
  name := "iso8859_7"
  aliases := ["csisolatingreek", "ecma_118", "elot_928", "greek", "greek8", "iso_8859_7",
    "iso_8859_7_1987", "iso_ir_126"]
  start := 0xa0
  table :=
    "\u00a0‘’£€₯¦§\u00a8©ͺ«¬\u00ad\ufffd―°±²³\u0384\u0385Ά·ΈΉΊ»Ό½ΎΏΐΑΒΓΔΕΖΗΘΙΚΛΜΝΞΟΠΡ\ufffdΣΤ" ++
    "ΥΦΧΨΩΪΫάέήίΰαβγδεζηθικλμνξοπρςστυφχψωϊϋόύώ\ufffd"

/-- The character set `iso8859_8`. -/
def iso88598 : Charset where
  name := "iso8859_8"
  aliases := ["csisolatinhebrew", "hebrew", "iso_8859_8", "iso_8859_8_1988", "iso_ir_138"]
  start := 0xa0
  table :=
    "\u00a0\ufffd¢£¤¥¦§\u00a8©×«¬\u00ad®\u00af°±²³\u00b4µ¶·\u00b8¹÷»¼½¾\ufffd\ufffd\ufffd" ++
    "\ufffd\ufffd\ufffd\ufffd\ufffd\ufffd\ufffd\ufffd\ufffd\ufffd\ufffd\ufffd\ufffd\ufffd" ++
    "\ufffd\ufffd\ufffd\ufffd\ufffd\ufffd\ufffd\ufffd\ufffd\ufffd\ufffd\ufffd\ufffd\ufffd" ++
    "\ufffd‗\u05d0\u05d1\u05d2\u05d3\u05d4\u05d5\u05d6\u05d7\u05d8\u05d9\u05da\u05db\u05dc" ++
    "\u05dd\u05de\u05df\u05e0\u05e1\u05e2\u05e3\u05e4\u05e5\u05e6\u05e7\u05e8\u05e9\u05ea" ++
    "\ufffd\ufffd\u200e\u200f\ufffd"

/-- The character set `iso8859_9`. -/
def iso88599 : Charset where
  name := "iso8859_9"
  aliases := ["csisolatin5", "iso_8859_9", "iso_8859_9_1989", "iso_ir_148", "l5", "latin5"]
  start := 0xa0
  table :=
    "\u00a0¡¢£¤¥¦§\u00a8©ª«¬\u00ad®\u00af°±²³\u00b4µ¶·\u00b8¹º»¼½¾¿ÀÁÂÃÄÅÆÇÈÉÊËÌÍÎÏĞÑÒÓÔÕÖ×ØÙ" ++
    "ÚÛÜİŞßàáâãäåæçèéêëìíîïğñòóôõö÷øùúûüışÿ"

/-- The character set `iso8859_10`. -/
def iso885910 : Charset where
  name := "iso8859_10"
  aliases := ["csisolatin6", "iso_8859_10", "iso_8859_10_1992", "iso_ir_157", "l6", "latin6"]
  start := 0xa0
  table :=
    "\u00a0ĄĒĢĪĨĶ§ĻĐŠŦŽ\u00adŪŊ°ąēģīĩķ·ļđšŧž―ūŋĀÁÂÃÄÅÆĮČÉĘËĖÍÎÏÐŅŌÓÔÕÖŨØŲÚÛÜÝÞßāáâãäåæįčéęëėí" ++
    "îïðņōóôõöũøųúûüýþĸ"

/-- The character set `iso8859_11`. -/
def iso885911 : Charset where
  name := "iso8859_11"
  aliases := ["thai", "iso_8859_11", "iso_8859_11_2001"]
  start := 0xa0
  table :=
    "\u00a0กขฃคฅฆงจฉชซฌญฎฏฐฑฒณดตถทธนบปผฝพฟภมยรฤลฦวศษสหฬอฮฯะ\u0e31าำ\u0e34\u0e35\u0e36\u0e37" ++
    "\u0e38\u0e39\u0e3a\ufffd\ufffd\ufffd\ufffd฿เแโใไๅๆ\u0e47\u0e48\u0e49\u0e4a\u0e4b\u0e4c" ++
    "\u0e4d\u0e4e๏๐๑๒๓๔๕๖๗๘๙๚๛\ufffd\ufffd\ufffd\ufffd"

/-- The character set `iso8859_13`. -/
def iso885913 : Charset where
  name := "iso8859_13"
  aliases := ["iso_8859_13", "l7", "latin7"]
  start := 0xa0
  table :=
    "\u00a0”¢£¤„¦§Ø©Ŗ«¬\u00ad®Æ°±²³“µ¶·ø¹ŗ»¼½¾æĄĮĀĆÄÅĘĒČÉŹĖĢĶĪĻŠŃŅÓŌÕÖ×ŲŁŚŪÜŻŽßąįāćäåęēčéźėģķ" ++
    "īļšńņóōõö÷ųłśūüżž’"

/-- The character set `iso8859_14`. -/
def iso885914 : Charset where
  name := "iso8859_14"
  aliases := ["iso_8859_14", "iso_8859_14_1998", "iso_celtic", "iso_ir_199", "l8", "latin8"]
  start := 0xa0
  table :=
    "\u00a0Ḃḃ£ĊċḊ§Ẁ©ẂḋỲ\u00ad®ŸḞḟĠġṀṁ¶ṖẁṗẃṠỳẄẅṡÀÁÂÃÄÅÆÇÈÉÊËÌÍÎÏŴÑÒÓÔÕÖṪØÙÚÛÜÝŶßàáâãäåæçèéêëìí" ++
    "îïŵñòóôõöṫøùúûüýŷÿ"

/-- The character set `iso8859_15`. -/
def iso885915 : Charset where
  name := "iso8859_15"
  aliases := ["iso_8859_15", "l9", "latin9"]
  start := 0xa0
  table :=
    "\u00a0¡¢£€¥Š§š©ª«¬\u00ad®\u00af°±²³Žµ¶·ž¹º»ŒœŸ¿ÀÁÂÃÄÅÆÇÈÉÊËÌÍÎÏÐÑÒÓÔÕÖ×ØÙÚÛÜÝÞßàáâãäåæçè" ++
    "éêëìíîïðñòóôõö÷øùúûüýþÿ"

/-- The character set `iso8859_16`. -/
def iso885916 : Charset where
  name := "iso8859_16"
  aliases := ["iso_8859_16", "iso_8859_16_2001", "iso_ir_226", "l10", "latin10"]
  start := 0xa0
  table :=
    "\u00a0ĄąŁ€„Š§š©Ș«Ź\u00adźŻ°±ČłŽ”¶·žčș»ŒœŸżÀÁÂĂÄĆÆÇÈÉÊËÌÍÎÏĐŃÒÓÔŐÖŚŰÙÚÛÜĘȚßàáâăäćæçèéêëìí" ++
    "îïđńòóôőöśűùúûüęțÿ"

/-- The character set `koi8_r`. -/
def koi8R : Charset where
  name := "koi8_r"
  aliases := ["cskoi8r"]
  start := 0x80
  table :=
    "─│┌┐└┘├┤┬┴┼▀▄█▌▐░▒▓⌠■∙√≈≤≥\u00a0⌡°²·÷═║╒ё╓╔╕╖╗╘╙╚╛╜╝╞╟╠╡Ё╢╣╤╥╦╧╨╩╪╫╬©юабцдефгхийклмнопяр" ++
    "стужвьызшэщчъЮАБЦДЕФГХИЙКЛМНОПЯРСТУЖВЬЫЗШЭЩЧЪ"

/-- The character set `koi8_t`. -/
def koi8T : Charset where
  name := "koi8_t"
  aliases := []
  start := 0x80
  table :=
    "қғ‚Ғ„…†‡\ufffd‰ҳ‹ҲҷҶ\ufffdҚ‘’“”•–—\ufffd™\ufffd›\ufffd\ufffd\ufffd\ufffd\ufffdӯӮё¤ӣ¦§" ++
    "\ufffd\ufffd\ufffd«¬\u00ad®\ufffd°±²Ё\ufffdӢ¶·\ufffd№\ufffd»\ufffd\ufffd\ufffd©юабцдефгх" ++
    "ийклмнопярстужвьызшэщчъЮАБЦДЕФГХИЙКЛМНОПЯРСТУЖВЬЫЗШЭЩЧЪ"

/-- The character set `koi8_u`. -/
def koi8U : Charset where
  name := "koi8_u"
  aliases := []
  start := 0x80
  table :=
    "─│┌┐└┘├┤┬┴┼▀▄█▌▐░▒▓⌠■∙√≈≤≥\u00a0⌡°²·÷═║╒ёє╔ії╗╘╙╚╛ґ╝╞╟╠╡ЁЄ╣ІЇ╦╧╨╩╪Ґ╬©юабцдефгхийклмнопяр" ++
    "стужвьызшэщчъЮАБЦДЕФГХИЙКЛМНОПЯРСТУЖВЬЫЗШЭЩЧЪ"

/-- The character set `kz1048`. -/
def kz1048 : Charset where
  name := "kz1048"
  aliases := ["kz_1048", "rk1048", "strk1048_2002"]
  start := 0x80
  table :=
    "ЂЃ‚ѓ„…†‡€‰Љ‹ЊҚҺЏђ‘’“”•–—\ufffd™љ›њқһџ\u00a0ҰұӘ¤Ө¦§Ё©Ғ«¬\u00ad®Ү°±Ііөµ¶·ё№ғ»әҢңүАБВГДЕЖЗИ" ++
    "ЙКЛМНОПРСТУФХЦЧШЩЪЫЬЭЮЯабвгдежзийклмнопрстуфхцчшщъыьэюя"

/-- The character set `mac_arabic`. -/
def macArabic : Charset where
  name := "mac_arabic"
  aliases := []
  start := 0x80
  table :=
    "Ä\u00a0ÇÉÑÖÜáàâä\u06ba«çéèêëí…îïñó»ôö÷úùûü !\"#$٪&'()*+،-./\u0660\u0661\u0662\u0663" ++
    "\u0664\u0665\u0666\u0667\u0668\u0669:\u061b<=>\u061f❊\u0621\u0622\u0623\u0624\u0625" ++
    "\u0626\u0627\u0628\u0629\u062a\u062b\u062c\u062d\u062e\u062f\u0630\u0631\u0632\u0633" ++
    "\u0634\u0635\u0636\u0637\u0638\u0639\u063a[\\]^_\u0640\u0641\u0642\u0643\u0644\u0645" ++
    "\u0646\u0647\u0648\u0649\u064a\u064b\u064c\u064d\u064e\u064f\u0650\u0651\u0652\u067e" ++
    "\u0679\u0686\u06d5\u06a4\u06af\u0688\u0691\x7b|\x7d\u0698\u06d2"

/-- The character set `mac_croatian`. -/
def macCroatian : Charset where
  name := "mac_croatian"
  aliases := []
  start := 0x80
  table :=
    "ÄÅÇÉÑÖÜáàâäãåçéèêëíìîïñóòôöõúùûü†°¢£§•¶ß®Š™\u00b4\u00a8≠ŽØ∞±≤≥∆µ∂∑∏š∫ªºΩžø¿¡¬√ƒ≈Ć«Č…" ++
    "\u00a0ÀÃÕŒœĐ—“”‘’÷◊\uf8ff©⁄€‹›Æ»–·‚„‰ÂćÁčÈÍÎÏÌÓÔđÒÚÛÙıˆ\u02dc\u00afπË\u02da\u00b8Êæˇ"

/-- The character set `mac_cyrillic`. -/
def macCyrillic : Charset where
  name := "mac_cyrillic"
  aliases := ["maccyrillic"]
  start := 0x80
  table :=
    "АБВГДЕЖЗИЙКЛМНОПРСТУФХЦЧШЩЪЫЬЭЮЯ†°Ґ£§•¶І®©™Ђђ≠Ѓѓ∞±≤≥іµґЈЄєЇїЉљЊњјЅ¬√ƒ≈∆«»…\u00a0ЋћЌќѕ–—“" ++
    "”‘’÷„ЎўЏџ№Ёёяабвгдежзийклмнопрстуфхцчшщъыьэю€"

/-- The character set `mac_farsi`. -/
def macFarsi : Charset where
  name := "mac_farsi"
  aliases := []
  start := 0x80
  table :=
    "Ä\u00a0ÇÉÑÖÜáàâä\u06ba«çéèêëí…îïñó»ôö÷úùûü !\"#$٪&'()*+،-./۰۱۲۳۴۵۶۷۸۹:\u061b<=>\u061f❊" ++
    "\u0621\u0622\u0623\u0624\u0625\u0626\u0627\u0628\u0629\u062a\u062b\u062c\u062d\u062e" ++
    "\u062f\u0630\u0631\u0632\u0633\u0634\u0635\u0636\u0637\u0638\u0639\u063a[\\]^_\u0640" ++
    "\u0641\u0642\u0643\u0644\u0645\u0646\u0647\u0648\u0649\u064a\u064b\u064c\u064d\u064e" ++
    "\u064f\u0650\u0651\u0652\u067e\u0679\u0686\u06d5\u06a4\u06af\u0688\u0691\x7b|\x7d\u0698" ++
    "\u06d2"

/-- The character set `mac_greek`. -/
def macGreek : Charset where
  name := "mac_greek"
  aliases := ["macgreek"]
  start := 0x80
  table :=
    "Ä¹²É³ÖÜ\u0385àâä\u0384\u00a8çéèêë£™îï•½‰ôö¦€ùûü†ΓΔΘΛΞΠß®©ΣΪ§≠°·Α±≤≥¥ΒΕΖΗΙΚΜΦΫΨΩάΝ¬ΟΡ≈Τ«»" ++
    "…\u00a0ΥΧΆΈœ–―“”‘’÷ΉΊΌΎέήίόΏύαβψδεφγηιξκλμνοπώρστθωςχυζϊϋΐΰ\u00ad"

/-- The character set `mac_iceland`. -/
def macIceland : Charset where
  name := "mac_iceland"
  aliases := ["maciceland"]
  start := 0x80
  table :=
    "ÄÅÇÉÑÖÜáàâäãåçéèêëíìîïñóòôöõúùûüÝ°¢£§•¶ß®©™\u00b4\u00a8≠ÆØ∞±≤≥¥µ∂∑∏π∫ªºΩæø¿¡¬√ƒ≈∆«»…" ++
    "\u00a0ÀÃÕŒœ–—“”‘’÷◊ÿŸ⁄€ÐðÞþý·‚„‰ÂÊÁËÈÍÎÏÌÓÔ\uf8ffÒÚÛÙıˆ\u02dc\u00af\u02d8\u02d9\u02da" ++
    "\u00b8\u02dd\u02dbˇ"

/-- The character set `mac_latin2`. -/
def macLatin2 : Charset where
  name := "mac_latin2"
  aliases := ["maccentraleurope", "mac_centeuro", "maclatin2"]
  start := 0x80
  table :=
    "ÄĀāÉĄÖÜáąČäčĆćéŹźĎíďĒēĖóėôöõúĚěü†°Ę£§•¶ß®©™ę\u00a8≠ģĮįĪ≤≥īĶ∂∑łĻļĽľĹĺŅņŃ¬√ńŇ∆«»…\u00a0ňŐÕ" ++
    "őŌ–—“”‘’÷◊ōŔŕŘ‹›řŖŗŠ‚„šŚśÁŤťÍŽžŪÓÔūŮÚůŰűŲųÝýķŻŁżĢˇ"

/-- The character set `mac_roman`. -/
def macRoman : Charset where
  name := "mac_roman"
  aliases := ["macintosh", "macroman"]
  start := 0x80
  table :=
    "ÄÅÇÉÑÖÜáàâäãåçéèêëíìîïñóòôöõúùûü†°¢£§•¶ß®©™\u00b4\u00a8≠ÆØ∞±≤≥¥µ∂∑∏π∫ªºΩæø¿¡¬√ƒ≈∆«»…" ++
    "\u00a0ÀÃÕŒœ–—“”‘’÷◊ÿŸ⁄€‹›\ufb01\ufb02‡·‚„‰ÂÊÁËÈÍÎÏÌÓÔ\uf8ffÒÚÛÙıˆ\u02dc\u00af\u02d8" ++
    "\u02d9\u02da\u00b8\u02dd\u02dbˇ"

/-- The character set `mac_romanian`. -/
def macRomanian : Charset where
  name := "mac_romanian"
  aliases := []
  start := 0x80
  table :=
    "ÄÅÇÉÑÖÜáàâäãåçéèêëíìîïñóòôöõúùûü†°¢£§•¶ß®©™\u00b4\u00a8≠ĂȘ∞±≤≥¥µ∂∑∏π∫ªºΩăș¿¡¬√ƒ≈∆«»…" ++
    "\u00a0ÀÃÕŒœ–—“”‘’÷◊ÿŸ⁄€‹›Țț‡·‚„‰ÂÊÁËÈÍÎÏÌÓÔ\uf8ffÒÚÛÙıˆ\u02dc\u00af\u02d8\u02d9\u02da" ++
    "\u00b8\u02dd\u02dbˇ"

/-- The character set `mac_turkish`. -/
def macTurkish : Charset where
  name := "mac_turkish"
  aliases := ["macturkish"]
  start := 0x80
  table :=
    "ÄÅÇÉÑÖÜáàâäãåçéèêëíìîïñóòôöõúùûü†°¢£§•¶ß®©™\u00b4\u00a8≠ÆØ∞±≤≥¥µ∂∑∏π∫ªºΩæø¿¡¬√ƒ≈∆«»…" ++
    "\u00a0ÀÃÕŒœ–—“”‘’÷◊ÿŸĞğİıŞş‡·‚„‰ÂÊÁËÈÍÎÏÌÓÔ\uf8ffÒÚÛÙ\uf8a0ˆ\u02dc\u00af\u02d8\u02d9" ++
    "\u02da\u00b8\u02dd\u02dbˇ"

/-- The character set `palmos`. -/
def palmos : Charset where
  name := "palmos"
  aliases := []
  start := 0x80
  table :=
    "€\u0081‚ƒ„…†‡ˆ‰Š‹Œ♦♣♥♠‘’“”•–—\u02dc™š\u009bœ\u009d\u009eŸ\u00a0¡¢£¤¥¦§\u00a8©ª«¬\u00ad®" ++
    "\u00af°±²³\u00b4µ¶·\u00b8¹º»¼½¾¿ÀÁÂÃÄÅÆÇÈÉÊËÌÍÎÏÐÑÒÓÔÕÖ×ØÙÚÛÜÝÞßàáâãäåæçèéêëìíîïðñòóôõö÷" ++
    "øùúûüýþÿ"

/-- The character set `ptcp154`. -/
def ptcp154 : Charset where
  name := "ptcp154"
  aliases := ["csptcp154", "pt154", "cp154", "cyrillic_asian"]
  start := 0x80
  table :=
    "ҖҒӮғ„…ҶҮҲүҠӢҢҚҺҸҗ‘’“”•–—ҳҷҡӣңқһҹ\u00a0ЎўЈӨҘҰ§Ё©Ә«¬ӯ®Ҝ°ұІіҙө¶·ё№ә»јҪҫҝАБВГДЕЖЗИЙКЛМНОПРСТ" ++
    "УФХЦЧШЩЪЫЬЭЮЯабвгдежзийклмнопрстуфхцчшщъыьэюя"

/-- The character set `tis_620`. -/
def tis620 : Charset where
  name := "tis_620"
  aliases := ["tis620", "tis_620_0", "tis_620_2529_0", "tis_620_2529_1", "iso_ir_166"]
  start := 0xa0
  table :=
    "\ufffdกขฃคฅฆงจฉชซฌญฎฏฐฑฒณดตถทธนบปผฝพฟภมยรฤลฦวศษสหฬอฮฯะ\u0e31าำ\u0e34\u0e35\u0e36\u0e37" ++
    "\u0e38\u0e39\u0e3a\ufffd\ufffd\ufffd\ufffd฿เแโใไๅๆ\u0e47\u0e48\u0e49\u0e4a\u0e4b\u0e4c" ++
    "\u0e4d\u0e4e๏๐๑๒๓๔๕๖๗๘๙๚๛\ufffd\ufffd\ufffd\ufffd"

/-- The character set `charmap`. -/
def charmap : Charset where
  name := "charmap"
  aliases := []
  start := 0x100
  table :=
    ""

/-- All character sets. -/
def all : List Charset :=
  [cp037, cp273, cp424, cp437, cp500, cp720, cp737, cp775, cp850, cp852, cp855, cp856, cp857,
   cp858, cp860, cp861, cp862, cp863, cp864, cp865, cp866, cp869, cp874, cp875, cp1006, cp1026,
   cp1125, cp1140, cp1250, cp1251, cp1253, cp1254, cp1255, cp1256, cp1257, cp1258, hpRoman8,
   iso88592, iso88593, iso88594, iso88595, iso88596, iso88597, iso88598, iso88599, iso885910,
   iso885911, iso885913, iso885914, iso885915, iso885916, koi8R, koi8T, koi8U, kz1048,
   macArabic, macCroatian, macCyrillic, macFarsi, macGreek, macIceland, macLatin2, macRoman,
   macRomanian, macTurkish, palmos, ptcp154, tis620, charmap]

end Charset

end PhpOutline
